import InteractiveMobs.Template.Render
import InteractiveMobs.Template.Serialized
import Mathlib.Data.List.Forall2

/-!
# Serialized templates

A template is written in one way and may be read from many: fields stand in any order and among
others, a token may leave its value out, a kind may be named in two ways, and lists may stand for
objects. `Template.Spells` says which JSON values spell a template, and reading takes just these
(`Template.ofJson?_eq_some_iff`). The serialized form is one of them, whatever the segments are and
whether or not the count agrees with them, so nothing is lost on the way through it, and an object
with a fault spells nothing (`Template.survives_serialization`).
-/

namespace InteractiveMobs
set_option autoImplicit false

/-! ## Fields -/

namespace Json
variable {fields : List (String × Json)} {name other : String} {value : Json}

/-- The object has no field of the name. -/
def Lacks (fields : List (String × Json)) (name : String) : Prop := ∀ value, (name, value) ∉ fields

/-- The object has one field of the name, with this value. -/
def HasField (fields : List (String × Json)) (name : String) (value : Json) : Prop :=
  ∃ before behind, fields = before ++ (name, value) :: behind ∧ ∀ f ∈ before ++ behind, f.1 ≠ name

theorem HasField.mem (has : HasField fields name value) : (name, value) ∈ fields := by
  obtain ⟨before, behind, rfl, -⟩ := has
  exact List.mem_append_right before List.mem_cons_self

theorem HasField.eq_of_mem (has : HasField fields name value) {found : Json}
    (mem : (name, found) ∈ fields) : found = value := by
  obtain ⟨before, behind, rfl, others⟩ := has
  rcases List.mem_append.1 mem with front | here
  · exact absurd rfl (others _ (List.mem_append_left behind front))
  · rcases List.mem_cons.1 here with same | back
    · exact (Prod.mk.inj same).2
    · exact absurd rfl (others _ (List.mem_append_right before back))

theorem occurrence_eq_absent_iff : occurrence name fields = .absent ↔ Lacks fields name := by
  have none : occurrence name fields = .absent ↔
      (fields.filter fun f => decide (f.1 = name)) = [] := by
    unfold occurrence
    generalize (fields.filter fun f => decide (f.1 = name)) = found
    rcases found with _ | ⟨first, _ | ⟨second, rest⟩⟩ <;> simp
  rw [none, List.filter_eq_nil_iff]
  constructor
  · exact fun lacks found mem => lacks _ mem (decide_eq_true rfl)
  · rintro lacks ⟨field, found⟩ mem same
    obtain rfl := of_decide_eq_true same
    exact lacks found mem

theorem occurrence_eq_once_iff :
    occurrence name fields = .once value ↔ HasField fields name value := by
  have single : occurrence name fields = .once value ↔
      (fields.filter fun f => decide (f.1 = name)) = [(name, value)] := by
    have named : ∀ f ∈ fields.filter fun f => decide (f.1 = name), f.1 = name :=
      fun f mem => of_decide_eq_true (List.mem_filter.1 mem).2
    unfold occurrence
    generalize (fields.filter fun f => decide (f.1 = name)) = found at named ⊢
    rcases found with _ | ⟨⟨field, first⟩, _ | ⟨second, rest⟩⟩
    · simp
    · obtain rfl : field = name := named _ List.mem_cons_self
      simp
    · simp
  rw [single, List.filter_eq_cons_iff]
  constructor
  · rintro ⟨before, behind, rfl, front, -, back⟩
    refine ⟨before, behind, rfl, fun f mem same => ?_⟩
    rcases List.mem_append.1 mem with mem | mem
    · exact front f mem (decide_eq_true same)
    · exact List.filter_eq_nil_iff.1 back f mem (decide_eq_true same)
  · rintro ⟨before, behind, rfl, others⟩
    refine ⟨before, behind, rfl, fun f mem same => ?_, decide_eq_true rfl, ?_⟩
    · exact others f (List.mem_append_left behind mem) (of_decide_eq_true same)
    · exact List.filter_eq_nil_iff.2 fun f mem same =>
        others f (List.mem_append_right before mem) (of_decide_eq_true same)

/-- A value names something by its text, or as an object with the name alone and nothing under
it. -/
inductive Names (name : String) : Json → Prop where
  | text : Names name (.text name)
  | field : Names name (.object [(name, .null)])

theorem Names.eq_of_names (named : Names name value) (again : Names other value) :
    name = other := by
  cases named <;> cases again <;> rfl

end Json

/-! ## Segments -/

namespace Segment

/-- The name of the segment's kind. -/
def kind : Segment → String
  | literal _ => "literal"
  | token _ => "token"

/-- What is written behind the kind. -/
def value : Segment → Json
  | literal text => .text text
  | token none => .null
  | token (some directive) => .text directive

theorem exists_literal {segment : Segment} (literal : segment.kind = "literal") :
    ∃ text, segment = .literal text := by
  cases segment with
  | literal text => exact ⟨text, rfl⟩
  | token directive => exact absurd literal (by simp [kind])

theorem exists_token {segment : Segment} (token : segment.kind = "token") :
    ∃ directive, segment = .token directive := by
  cases segment with
  | literal text => exact absurd token (by simp [kind])
  | token directive => exact ⟨directive, rfl⟩

theorem toJson_eq (segment : Segment) :
    segment.toJson = .object [("kind", .text segment.kind), ("value", segment.value)] := by
  rcases segment with text | _ | directive <;> rfl

/-- The JSON values that stand for a segment. -/
inductive Spells : Json → Segment → Prop where
  | full {fields : List (String × Json)} {kind : Json} {segment : Segment}
    (named : Json.HasField fields "kind" kind) (names : Json.Names segment.kind kind)
    (valued : Json.HasField fields "value" segment.value) : Spells (.object fields) segment
  | bare {fields : List (String × Json)} {kind : Json} (named : Json.HasField fields "kind" kind)
    (names : Json.Names "token" kind) (lacks : Json.Lacks fields "value") :
    Spells (.object fields) (token none)
  | pair {segment : Segment} : Spells (.list [.text segment.kind, segment.value]) segment

theorem spells_toJson (segment : Segment) : Spells segment.toJson segment := by
  rw [toJson_eq]
  exact .full ⟨[], [_], rfl, by simp⟩ .text ⟨[_], [], rfl, by simp⟩

theorem kindOf_eq_text_iff {name : String} {kind : Json} :
    kindOf kind = .text name ↔ Json.Names name kind := by
  constructor
  · unfold kindOf
    split
    · rintro ⟨⟩
      exact .field
    · rintro rfl
      exact .text
  · rintro ⟨⟩ <;> rfl

theorem ofParts?_eq_some_iff {kind : Json} {value : Option Json} {segment : Segment} :
    ofParts? kind value = some segment ↔ kind = .text segment.kind ∧
      (value = some segment.value ∨ value = none ∧ segment = token none) := by
  constructor
  · unfold ofParts?
    split <;> rintro ⟨⟩ <;> simp [Segment.kind, Segment.value]
  · rintro ⟨rfl, rfl | ⟨rfl, rfl⟩⟩
    · rcases segment with text | _ | directive <;> rfl
    · rfl

/-- Reading takes the JSON values that spell a segment. -/
theorem ofJson?_eq_some_iff {json : Json} {segment : Segment} :
    ofJson? json = some segment ↔ Spells json segment := by
  constructor
  · intro read
    unfold ofJson? at read
    split at read
    next fields =>
      split at read
      next named valued =>
        obtain ⟨names, same | ⟨absent, -⟩⟩ := ofParts?_eq_some_iff.1 read
        · cases same
          exact .full (Json.occurrence_eq_once_iff.1 named) (kindOf_eq_text_iff.1 names)
            (Json.occurrence_eq_once_iff.1 valued)
        · cases absent
      next named lacks =>
        obtain ⟨names, same | ⟨-, rfl⟩⟩ := ofParts?_eq_some_iff.1 read
        · cases same
        · exact .bare (Json.occurrence_eq_once_iff.1 named) (kindOf_eq_text_iff.1 names)
            (Json.occurrence_eq_absent_iff.1 lacks)
      next => cases read
    next =>
      obtain ⟨rfl, same | ⟨absent, -⟩⟩ := ofParts?_eq_some_iff.1 read
      · cases same
        exact .pair
      · cases absent
    next => cases read
  · intro spelled
    cases spelled with
    | full named names valued =>
      simp only [ofJson?, Json.occurrence_eq_once_iff.2 named,
        Json.occurrence_eq_once_iff.2 valued, kindOf_eq_text_iff.2 names]
      exact ofParts?_eq_some_iff.2 ⟨rfl, .inl rfl⟩
    | bare named names lacks =>
      simp only [ofJson?, Json.occurrence_eq_once_iff.2 named,
        Json.occurrence_eq_absent_iff.2 lacks, kindOf_eq_text_iff.2 names]
      rfl
    | pair => exact ofParts?_eq_some_iff.2 ⟨rfl, .inl rfl⟩

/-- The faults of an object that should be a segment: it has no kind, or another one; it is a
literal without a text, or a token with a value that is neither a text nor null. -/
inductive Faulty (fields : List (String × Json)) : Prop where
  | unnamed (lacks : Json.Lacks fields "kind")
  | unknown {kind : Json} (named : ("kind", kind) ∈ fields)
    (noLiteral : ¬ Json.Names "literal" kind) (noToken : ¬ Json.Names "token" kind)
  | textless {kind : Json} (named : ("kind", kind) ∈ fields) (literal : Json.Names "literal" kind)
    (noText : ∀ text, ("value", .text text) ∉ fields)
  | misdirected {kind value : Json} (named : ("kind", kind) ∈ fields)
    (token : Json.Names "token" kind) (valued : ("value", value) ∈ fields)
    (notNull : value ≠ .null) (noText : ∀ text, value ≠ .text text)

theorem Faulty.not_spells {fields : List (String × Json)} (faulty : Faulty fields)
    {segment : Segment} (spelled : Spells (.object fields) segment) : False := by
  -- Both ways of spelling a segment by an object name its kind.
  obtain ⟨kind, has, names⟩ :
      ∃ kind, Json.HasField fields "kind" kind ∧ Json.Names segment.kind kind := by
    cases spelled with
    | full named names valued => exact ⟨_, named, names⟩
    | bare named names lacks => exact ⟨_, named, names⟩
  cases faulty with
  | unnamed lacks => exact lacks kind has.mem
  | unknown named noLiteral noToken =>
    obtain rfl := has.eq_of_mem named
    cases segment with
    | literal text => exact noLiteral names
    | token directive => exact noToken names
  | textless named literal noText =>
    obtain rfl := has.eq_of_mem named
    obtain ⟨text, rfl⟩ := exists_literal (names.eq_of_names literal)
    cases spelled with
    | full _ _ valued => exact noText text valued.mem
  | misdirected named token valued notNull noText =>
    obtain rfl := has.eq_of_mem named
    obtain ⟨directive, rfl⟩ := exists_token (names.eq_of_names token)
    cases spelled with
    | full _ _ has =>
      obtain rfl := has.eq_of_mem valued
      cases directive with
      | none => exact notNull rfl
      | some directive => exact noText directive rfl
    | bare _ _ lacks => exact lacks _ valued

end Segment

/-! ## Templates -/

theorem mapM_eq_some_iff {α β : Type} {f : α → Option β} {items : List α} {results : List β} :
    items.mapM f = some results ↔
      List.Forall₂ (fun item result => f item = some result) items results := by
  induction items generalizing results with
  | nil => simp [eq_comm]
  | cons item rest ih =>
    simp only [List.mapM_cons, Option.bind_eq_bind, Option.bind_eq_some_iff, ih,
      List.forall₂_cons_left_iff]
    constructor
    · rintro ⟨first, here, later, on, same⟩
      exact ⟨first, later, here, on, (Option.some.inj same).symm⟩
    · rintro ⟨first, later, here, on, rfl⟩
      exact ⟨first, here, later, on, rfl⟩

namespace Template

/-- The JSON values that stand for a template. -/
inductive Spells : Json → Template → Prop where
  | object {fields : List (String × Json)} {items : List Json} {template : Template}
    (listed : Json.HasField fields "segments" (.list items))
    (counted : Json.HasField fields "token_count" (.integer template.tokenCount))
    (fits : template.tokenCount < countLimit)
    (each : List.Forall₂ Segment.Spells items template.segments) : Spells (.object fields) template
  | pair {items : List Json} {template : Template} (fits : template.tokenCount < countLimit)
    (each : List.Forall₂ Segment.Spells items template.segments) :
    Spells (.list [.list items, .integer template.tokenCount]) template

theorem Spells.fits {json : Json} {template : Template} (spelled : Spells json template) :
    template.tokenCount < countLimit := by
  cases spelled with
  | object _ _ fits _ => exact fits
  | pair fits _ => exact fits

theorem spells_toJson {template : Template} (fits : template.tokenCount < countLimit) :
    Spells template.toJson template :=
  .object ⟨[], [_], rfl, by simp⟩ ⟨[_], [], rfl, by simp⟩ fits
    (List.forall₂_map_left_iff.2 (List.forall₂_same.2 fun segment _ => segment.spells_toJson))

theorem ofParts?_eq_some_iff {listed count : Json} {template : Template} :
    ofParts? listed count = some template ↔ ∃ items, listed = .list items ∧
      count = .integer template.tokenCount ∧ template.tokenCount < countLimit ∧
      List.Forall₂ Segment.Spells items template.segments := by
  have each (items : List Json) (segments : List Segment) :
      items.mapM Segment.ofJson? = some segments ↔ List.Forall₂ Segment.Spells items segments := by
    simp only [mapM_eq_some_iff, Segment.ofJson?_eq_some_iff]
  constructor
  · unfold ofParts?
    split
    next items n =>
      split
      next fits =>
        intro read
        obtain ⟨segments, made, rfl⟩ := Option.map_eq_some_iff.1 read
        exact ⟨items, rfl, rfl, fits, (each _ _).1 made⟩
      next => rintro ⟨⟩
    next => rintro ⟨⟩
  · rintro ⟨items, rfl, rfl, fits, spelled⟩
    show (if template.tokenCount < countLimit then _ else none) = _
    rw [if_pos fits, (each _ _).2 spelled]
    rfl

/-- Reading takes the JSON values that spell a template. -/
theorem ofJson?_eq_some_iff {json : Json} {template : Template} :
    ofJson? json = some template ↔ Spells json template := by
  constructor
  · intro read
    unfold ofJson? at read
    split at read
    next fields =>
      split at read
      next listed counted =>
        obtain ⟨items, rfl, rfl, fits, each⟩ := ofParts?_eq_some_iff.1 read
        exact .object (Json.occurrence_eq_once_iff.1 listed) (Json.occurrence_eq_once_iff.1 counted)
          fits each
      next => cases read
    next =>
      obtain ⟨items, rfl, rfl, fits, each⟩ := ofParts?_eq_some_iff.1 read
      exact .pair fits each
    next => cases read
  · intro spelled
    cases spelled with
    | object listed counted fits each =>
      simp only [ofJson?, Json.occurrence_eq_once_iff.2 listed,
        Json.occurrence_eq_once_iff.2 counted]
      exact ofParts?_eq_some_iff.2 ⟨_, rfl, rfl, fits, each⟩
    | pair fits each => exact ofParts?_eq_some_iff.2 ⟨_, rfl, rfl, fits, each⟩

theorem ofJson?_toJson {template : Template} (fits : template.tokenCount < countLimit) :
    ofJson? template.toJson = some template := ofJson?_eq_some_iff.2 (spells_toJson fits)

/-- The faults of an object that should be a template: a field is missing, the count is no whole
number below the limit, or an object among the segments has a fault. -/
inductive Faulty (fields : List (String × Json)) : Prop where
  | unlisted (lacks : Json.Lacks fields "segments")
  | uncounted (lacks : Json.Lacks fields "token_count")
  | miscounted {count : Json} (counted : ("token_count", count) ∈ fields)
    (noCount : ∀ n : Nat, n < countLimit → count ≠ .integer n)
  | misread {items : List Json} {parts : List (String × Json)}
    (listed : ("segments", .list items) ∈ fields) (item : .object parts ∈ items)
    (faulty : Segment.Faulty parts)

theorem Faulty.not_spells {fields : List (String × Json)} (faulty : Faulty fields)
    {template : Template} (spelled : Spells (.object fields) template) : False := by
  cases spelled with
  | object has counts fits each =>
    cases faulty with
    | unlisted lacks => exact lacks _ has.mem
    | uncounted lacks => exact lacks _ counts.mem
    | miscounted counted noCount => exact noCount _ fits (counts.eq_of_mem counted)
    | misread listed item faulty =>
      cases has.eq_of_mem listed
      have spelled : ∀ item ∈ _, ∃ segment, Segment.Spells item segment :=
        ((List.forall₂_and_left _ _).1 (each.imp fun _ segment here => ⟨⟨segment, here⟩, here⟩)).1
      obtain ⟨segment, here⟩ := spelled _ item
      exact faulty.not_spells here

/-- **A template survives its serialized form.** Whatever its segments and its count are, below
the limit of counts, it is read back as it was written. So different templates are written
differently, such as one with an empty directive and one with none, and the template read back
renders as the one written. A JSON value in any other spelling is read as a template that survives
as well. An object with a fault is not read. -/
theorem survives_serialization :
    (∀ template : Template, template.tokenCount < countLimit →
      ofJson? template.toJson = some template ∧
      (∀ other : Template, other.tokenCount < countLimit →
        other.toJson = template.toJson → other = template) ∧
      ∀ args, (ofJson? template.toJson).map (fun read => read.render args) =
        some (template.render args)) ∧
    (∀ json template, ofJson? json = some template → ofJson? template.toJson = some template) ∧
    ∀ fields, Faulty fields → ofJson? (.object fields) = none := by
  refine ⟨fun template fits => ⟨ofJson?_toJson fits, fun other small same => ?_, fun args => ?_⟩,
    fun json template read => ?_, fun fields faulty => ?_⟩
  · have read := ofJson?_toJson small
    rw [same, ofJson?_toJson fits] at read
    exact (Option.some.inj read).symm
  · rw [ofJson?_toJson fits, Option.map_some]
  · exact ofJson?_toJson (ofJson?_eq_some_iff.1 read).fits
  · refine Option.eq_none_iff_forall_ne_some.2 fun template read => ?_
    exact faulty.not_spells (ofJson?_eq_some_iff.1 read)

/-- The count of this template is not that of its tokens; the next object leaves a value out, names
a kind in the longer way and has a field of its own; the last one has a literal without a text. -/
theorem survives_serialization_spellings :
    let template : Template := ⟨[.token none, .token (some ""), .literal "&c"], 9⟩
    let loose : List (String × Json) := [("token_count", .integer 0), ("note", .bool true),
      ("segments", .list [.object [("kind", .object [("token", .null)])]])]
    let faulty : List (String × Json) := [("token_count", .integer 0),
      ("segments", .list [.object [("kind", .text "literal"), ("value", .null)]])]
    (template.tokenCount < countLimit ∧ ofJson? template.toJson = some template) ∧
      (ofJson? (.object loose) = some ⟨[.token none], 0⟩ ∧
        ofJson? (toJson ⟨[.token none], 0⟩) = some ⟨[.token none], 0⟩) ∧
      Faulty faulty ∧ ofJson? (.object faulty) = none := by
  intro template loose faulty
  obtain ⟨keeps, again, refuses⟩ := survives_serialization
  have fits : template.tokenCount < countLimit := by decide
  have read : ofJson? (.object loose) = some ⟨[.token none], 0⟩ := rfl
  have textless : Segment.Faulty [("kind", .text "literal"), ("value", .null)] :=
    .textless List.mem_cons_self .text (by simp)
  have fault : Faulty faulty :=
    .misread (List.mem_cons_of_mem _ List.mem_cons_self) List.mem_cons_self textless
  exact ⟨⟨fits, (keeps template fits).1⟩, ⟨read, again _ _ read⟩, fault, refuses faulty fault⟩

end Template
end InteractiveMobs
