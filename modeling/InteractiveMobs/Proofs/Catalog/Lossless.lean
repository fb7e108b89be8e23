import InteractiveMobs.Catalog.Reading
import InteractiveMobs.Catalog.Writing
import InteractiveMobs.Proofs.Yaml.Numbers
import InteractiveMobs.Proofs.Yaml.Structure

/-!
# Reading back what was written

A written catalog document is read back as the catalog it was written for (`Config.read_write`).
The document is followed through the lexer (`tokens_documentText`), the structure of its tokens
(`document_write`), and what its fields mean. All but the entries themselves is the same for any
document with the same two fields.
-/

namespace InteractiveMobs.Config
set_option autoImplicit false
open Yaml Yaml.Writing Yaml.Lexer

/-- The keys and templates of messages as texts. -/
def texts (messages : Table MessageKey String) : List (String × String) :=
  messages.entries.map fun e => (e.1.text, e.2)

/-! ## What is written -/

/-- What stands behind the colon of the messages. -/
def messagesBody (messages : Table MessageKey String) : List Char :=
  match texts messages with
  | [] => [' ', '{', '}', '\n']
  | first :: rest => '\n' :: (margin 2 ++ (entryBody first.1 first.2 ++ entriesText rest))

theorem writeMessages_eq (messages : Table MessageKey String) :
    writeMessages messages = "messages".toList ++ ':' :: messagesBody messages := by
  unfold writeMessages messagesBody texts Table.isEmpty
  cases messages.entries with
  | nil => rfl
  | cons e rest =>
    have first : "messages:\n".toList = "messages".toList ++ [':', '\n'] := rfl
    have others : entriesText (rest.map fun e => (e.1.text, e.2)) =
        rest.flatMap fun e => entry e.1.text e.2 := List.flatMap_map _ _ _
    simp only [List.isEmpty_cons, Bool.false_eq_true, if_false, List.flatMap_cons, List.map_cons,
      first, others]
    rw [entry_eq]
    simp only [List.append_assoc, List.cons_append, List.nil_append]

/-- A document up to its messages, and what stands behind their colon. -/
def documentText (version : Nat) (behind : List Char) : List Char :=
  "version".toList ++ ':' :: ' ' ::
    (Nat.toDigits 10 version ++ '\n' :: ("messages".toList ++ ':' :: behind))

theorem toList_write (config : Config) :
    config.write.toList = documentText config.version.toNat (messagesBody config.messages) := by
  have front (back : List Char) :
      "version: ".toList ++ back = "version".toList ++ ':' :: ' ' :: back := rfl
  unfold write
  rw [String.toList_ofList, toList_toString, List.append_assoc, writeMessages_eq]
  exact front (Nat.toDigits 10 config.version.toNat ++
    '\n' :: ("messages".toList ++ ':' :: messagesBody config.messages))

/-- Every character of a document can be shown. -/
theorem isPrintable_of_mem_documentText (version : Nat) {behind : List Char}
    (shown : ∀ c ∈ behind, isPrintable c = true) :
    ∀ c ∈ documentText version behind, isPrintable c = true := by
  have digits : ∀ c ∈ Nat.toDigits 10 version, isPrintable c = true :=
    fun c mem => (of_isDigit (isDigit_of_mem_toDigits mem)).1
  have messages : ∀ c ∈ "messages".toList ++ ':' :: behind, isPrintable c = true :=
    List.forall_mem_append.2 ⟨List.all_eq_true.1 (by decide), List.forall_mem_cons.2 ⟨rfl, shown⟩⟩
  refine List.forall_mem_append.2 ⟨List.all_eq_true.1 (by decide), ?_⟩
  exact List.forall_mem_cons.2 ⟨rfl, List.forall_mem_cons.2 ⟨rfl,
    List.forall_mem_append.2 ⟨digits, List.forall_mem_cons.2 ⟨rfl, messages⟩⟩⟩⟩

theorem messagesBody_cons {messages : Table MessageKey String} {first : String × String}
    {rest : List (String × String)} (h : texts messages = first :: rest) :
    messagesBody messages = '\n' ::
      ((first :: rest).map fun e => entryBody e.1 e.2).flatMap (margin 2 ++ ·) := by
  rw [messagesBody, h, List.map_cons, List.flatMap_cons, ← entriesText_eq, List.append_assoc]

theorem isPrintable_of_mem_messagesBody (messages : Table MessageKey String) :
    ∀ c ∈ messagesBody messages, isPrintable c = true := by
  cases entries : texts messages with
  | nil =>
    rw [messagesBody, entries]
    exact List.all_eq_true.1 (by decide)
  | cons first rest =>
    rw [messagesBody_cons entries]
    exact List.forall_mem_cons.2 ⟨rfl, (entryForms_written _).isPrintable⟩

/-! ## Tokens -/

/-- The lexer reads the text behind the colon of the messages as these entries. -/
def IsMessages (entries : List (String × String)) (behind : List Char) : Prop :=
  ∀ (position : Position) (tokens : List Token) (steps : Nat), behind.length < steps →
    ∃ mapping, IsMapping entries mapping ∧
      run steps ⟨behind, position, tokens, [0], false, none, []⟩ =
        .ok (tokens.reverse ++ (mapping ++ [.blockEnd]))

theorem isMessages_braces : IsMessages [] [' ', '{', '}', '\n'] := by
  intro position tokens steps enough
  have line : ∀ c ∈ ['\n'], c = ' ' ∨ isBreak c = true := List.forall_mem_singleton.2 (.inr rfl)
  have within : [0].head?.all (· ≤ (position.next ' ').column) = true := by simp
  have finished : atWord [] = true := rfl
  have read := ((reaches_space rfl).trans (reaches_braces tokens within)).trans
    (reaches_word line finished rfl)
  refine ⟨_, .braces, (Reaches.run_eq read enough).trans ?_⟩
  simp

/-- Each entry is on lines of its own. -/
theorem isMessages_lines {first : String × String} {entries : List (String × String)}
    {bodies : List (List Char)} (forms : EntryForms (first :: entries) bodies) :
    IsMessages (first :: entries) ('\n' :: bodies.flatMap (margin 2 ++ ·)) := by
  intro position tokens steps enough
  cases forms with
  | @cons _ body _ bodies form forms =>
    rw [List.flatMap_cons, List.append_assoc] at enough ⊢
    have gap : ∀ c ∈ '\n' :: margin 2, c = ' ' ∨ isBreak c = true :=
      List.forall_mem_cons.2 ⟨.inr rfl, fun _ mem => .inl (List.eq_of_mem_replicate mem)⟩
    have here : atWord (body ++ bodies.flatMap (margin 2 ++ ·)) = true := by
      obtain ⟨c, rest, rfl, word⟩ := form.starts
      exact word
    have column : (position.after ('\n' :: margin 2)).column = 2 :=
      (position.after_line [] rfl 2).2
    have inner : columns 2 [0] = [2, 0] := rfl
    obtain ⟨entryTokens, after, are, read⟩ := reaches_entries form forms tokens column rfl [0] inner
    have entered : Reaches ⟨'\n' :: (margin 2 ++ (body ++ bodies.flatMap (margin 2 ++ ·))),
          position, tokens, [0], false, none, []⟩
        ⟨body ++ bodies.flatMap (margin 2 ++ ·), position.after ('\n' :: margin 2), tokens,
          [0], true, none, []⟩ := reaches_word gap here rfl
    refine ⟨_, .block are, ((entered.trans read).run_eq enough).trans ?_⟩
    simp [opening]

theorem isMessages_body (messages : Table MessageKey String) :
    IsMessages (texts messages) (messagesBody messages) := by
  cases entries : texts messages with
  | nil =>
    rw [messagesBody, entries]
    exact isMessages_braces
  | cons first rest =>
    rw [messagesBody_cons entries]
    exact isMessages_lines (entryForms_written (first :: rest))

/-- A field of a catalog, up to the colon behind its name. -/
theorem reaches_field (name : String) (allowed : plainAllowed name.toList = true)
    (short : String.utf8Len name.toList ≤ PossibleKey.maxLength)
    (letter : name.toList.head?.all (fun c => c ≠ '-' ∧ c ≠ '.') = true) {position : Position}
    (margin : position.column = 0) {indents : List Nat}
    (within : indents.head?.all (· ≤ 0) = true) {behind : List Char}
    (apart : startsSpacing behind = true) (tokens : List Token) :
    Reaches ⟨name.toList ++ ':' :: behind, position, tokens, indents, true, none, []⟩
      ⟨behind, (position.after name.toList).next ':', .value :: .scalar .plain name :: .key ::
        (opening 0 indents ++ tokens), columns 0 indents, false, none, []⟩ := by
  have plain := Plain.isText_of_plainAllowed allowed
  rw [← margin] at within
  have unmarked : Unmarked position name.toList := fun _ c mem => by
    simpa [Option.mem_def.1 mem] using letter
  have read := reaches_key tokens (.plain allowed) plain.unbroken short unmarked within apart
  rwa [String.ofList_toList, margin] at read

/-- The lexer at the first character of a document goes on to the messages. -/
theorem reaches_messages (version : Nat) {behind : List Char}
    (apart : startsSpacing behind = true) :
    ∃ position : Position, Reaches ⟨documentText version behind, {}, [], [], true, none, []⟩
      ⟨behind, position, [.value, .scalar .plain "messages", .key,
        .scalar .plain (toString version), .value, .scalar .plain "version", .key,
        .blockMappingStart], [0], false, none, []⟩ := by
  have plain := isText_of_isDigit Nat.toDigits_ne_nil fun _ => isDigit_of_mem_toDigits (n := version)
  have first : Continues 0 (margin 0 ++ ("messages".toList ++ ':' :: behind))
      ("messages".toList ++ ':' :: behind) := .word (rfl : startsWord 'm' = true)
  have named := reaches_field "version" (by decide) (by decide) (by decide)
    (rfl : ({} : Position).column = 0) (rfl : [].head?.all (· ≤ 0) = true)
    (rfl : startsSpacing (' ' :: (Nat.toDigits 10 version ++ '\n' :: ("messages".toList ++ ':' ::
      behind))) = true) []
  have spaced := named.trans (reaches_space (atWord_plain plain _))
  have valued {position : Position} (right : 0 < position.column) (tokens : List Token) :
      Reaches ⟨Nat.toDigits 10 version ++ '\n' :: ("messages".toList ++ ':' :: behind), position,
          tokens, [0], false, none, []⟩
        ⟨"messages".toList ++ ':' :: behind,
          position.after (Nat.toDigits 10 version ++ '\n' :: margin 0),
          .scalar .plain (toString version) :: tokens, [0], true, none, []⟩ := by
    rw [Nat.toString_eq_ofList_toDigits]
    exact reaches_plain_line plain first rfl [] right
  have newline : isBreak '\n' = true := rfl
  have listed {position : Position} (start : position.column = 0) (tokens : List Token) :=
    reaches_field "messages" (by decide) (by decide) (by decide) start
      (rfl : [0].head?.all (· ≤ 0) = true) apart tokens
  exact ⟨_, (spaced.trans (valued (by decide) _)).trans
    (listed (Position.after_line _ _ newline 0).2 _)⟩

/-- The tokens of a document. -/
theorem tokens_documentText {version : Nat} {entries : List (String × String)} {behind : List Char}
    {text : String} (whole : text.toList = documentText version behind)
    (shown : ∀ c ∈ behind, isPrintable c = true) (apart : startsSpacing behind = true)
    (messages : IsMessages entries behind) :
    ∃ mapping, IsMapping entries mapping ∧
      Yaml.tokens text = .ok (.blockMappingStart :: .key :: .scalar .plain "version" ::
        .value :: .scalar .plain (toString version) :: .key ::
        .scalar .plain "messages" :: .value :: (mapping ++ [.blockEnd])) := by
  obtain ⟨position, front⟩ := reaches_messages version apart
  have scan := tokens_eq (whole ▸ isPrintable_of_mem_documentText version shown)
  rw [← whole] at front
  generalize text.toList = written at front scan
  obtain ⟨steps, enough, same⟩ := front _ (Nat.lt_succ_self written.length)
  obtain ⟨mapping, is, run⟩ := messages position _ steps enough
  exact ⟨mapping, is, scan.trans (same.trans run)⟩

/-! ## The document -/

/-- The fields of a document, given the nodes of its messages. -/
def fieldsOf (version : UInt32) (nodes : List (Node × Node)) : List (Node × Node) :=
  [(.scalar none none .plain "version", .scalar none none .plain (toString version.toNat)),
    (.scalar none none .plain "messages", .mapping none nodes)]

/-- A document has two fields. -/
theorem document_documentText {version : UInt32} {entries : List (String × String)}
    {behind : List Char} {text : String}
    (whole : text.toList = documentText version.toNat behind)
    (shown : ∀ c ∈ behind, isPrintable c = true) (apart : startsSpacing behind = true)
    (messages : IsMessages entries behind) :
    ∃ nodes, List.Forall₂ IsEntry nodes entries ∧
      Document.read text = .ok (some (.ofRoot (.mapping none (fieldsOf version nodes)))) := by
  obtain ⟨mapping, is, scanned⟩ := tokens_documentText whole shown apart messages
  have deep : mapping.length + 2 ≤ 4 * mapping.length + 36 := by omega
  obtain ⟨given, nodes, listed, hold⟩ := is.read Document.commonHandles ∅ [.blockEnd] deep
  refine ⟨nodes, hold, ?_⟩
  have finished : readEntries Document.commonHandles (4 * mapping.length + 37) ∅ [.blockEnd] =
      .ok ([], ∅, []) := rfl
  have messages := readEntries_entry .plain "messages" given listed finished
  have fields := readEntries_entry .plain "version" rfl
    (readNode_scalar .plain (toString version.toNat)) messages
  have root := readNode_mapping fields (by decide : Place.block ≠ .flow)
  have document := Document.readRoot_eq root (by
    simp only [List.length_cons, List.length_append, List.length_nil]
    omega)
  rw [Document.read, scanned]
  exact congrArg (·.map some) document

/-- The document that is written has the messages of its catalog. -/
theorem document_write (config : Config) :
    ∃ nodes, List.Forall₂ IsEntry nodes (texts config.messages) ∧
      Document.read config.write =
        .ok (some (.ofRoot (.mapping none (fieldsOf config.version nodes)))) := by
  have apart : startsSpacing (messagesBody config.messages) = true := by
    unfold messagesBody
    split <;> rfl
  exact document_documentText (toList_write config) (isPrintable_of_mem_messagesBody _) apart
    (isMessages_body _)

/-! ## Its meaning -/

theorem mapM_eq {α β γ ε : Type} {related : α → β → Prop} {f : α → Except ε γ} {g : β → γ}
    (read : ∀ a b, related a b → f a = .ok (g b)) {as : List α} {bs : List β}
    (hold : List.Forall₂ related as bs) : as.mapM f = .ok (bs.map g) := by
  induction hold with
  | nil => rfl
  | cons here later ih =>
    rw [List.mapM_cons, read _ _ here, ih]
    rfl

theorem messagesOf_eq (document : Document) {nodes : List (Node × Node)}
    {entries : List (String × String)} (hold : List.Forall₂ IsEntry nodes entries) :
    messagesOf document (.mapping none nodes) =
      .ok (.ofList (entries.map fun e => (⟨e.1⟩, e.2))) := by
  have listed : entriesOf document (.mapping none nodes) = .ok nodes := rfl
  rw [messagesOf, listed]
  simp only [bind, Except.bind]
  rw [mapM_eq (g := fun e => ((⟨e.1⟩ : MessageKey), e.2)) ?_ hold]
  · rfl
  · rintro ⟨key, value⟩ entry ⟨⟨_, rfl⟩, ⟨_, rfl⟩⟩
    rfl

theorem ofList_texts (messages : Table MessageKey String) :
    Table.ofList ((texts messages).map fun e => ((⟨e.1⟩ : MessageKey), e.2)) = messages := by
  have entries : ((texts messages).map fun e => ((⟨e.1⟩ : MessageKey), e.2)) =
      messages.entries := by
    rw [texts, List.map_map]
    exact List.map_id _
  rw [entries]
  exact Table.ext_get? fun key => Table.get?_ofList messages.nodup_keys

theorem versionOf_eq (document : Document) (version : UInt32) :
    versionOf document (.scalar none none .plain (toString version.toNat)) = .ok version := by
  have text : natural? (toString version.toNat).toList = some version.toNat := by
    rw [toList_toString, natural?_toDigits]
  have small : version.toNat < UInt32.size := version.toNat_lt
  simp only [versionOf, Document.resolve, text, bind, Except.bind, pure, Except.pure, small,
    if_true, UInt32.ofNat_toNat]

/-- The fields of a written document are taken for what they hold. -/
theorem take_fieldsOf (document : Document) (version : UInt32) {nodes : List (Node × Node)}
    {messages : Table MessageKey String}
    (read : messagesOf document (.mapping none nodes) = .ok messages) :
    (fieldsOf version nodes).foldlM (Fields.take document) {} =
      .ok ⟨some version, some messages⟩ := by
  have first : Fields.take document {} (.scalar none none .plain "version",
      .scalar none none .plain (toString version.toNat)) = .ok ⟨some version, none⟩ := by
    have number := versionOf_eq document version
    simp only [Fields.take, textOf, Document.resolve, bind, Except.bind, number, pure, Except.pure,
      Option.isSome_none, Bool.false_eq_true, if_false]
  have second : Fields.take document ⟨some version, none⟩ (.scalar none none .plain "messages",
      .mapping none nodes) = .ok ⟨some version, some messages⟩ := by
    simp only [Fields.take, textOf, Document.resolve, bind, Except.bind, read, pure, Except.pure,
      Option.isSome_none, Bool.false_eq_true, if_false]
  simp only [fieldsOf, List.foldlM_cons, List.foldlM_nil, bind, Except.bind, first, second, pure,
    Except.pure]

/-- **Whatever a catalog holds, its document is read back as that catalog.** -/
theorem read_write (config : Config) : read config.write = .ok config := by
  obtain ⟨nodes, hold, document⟩ := document_write config
  have messages := messagesOf_eq (.ofRoot (.mapping none (fieldsOf config.version nodes))) hold
  rw [ofList_texts] at messages
  have fields := take_fieldsOf _ config.version messages
  have entries : entriesOf (.ofRoot (.mapping none (fieldsOf config.version nodes)))
      (.mapping none (fieldsOf config.version nodes)) = .ok (fieldsOf config.version nodes) := rfl
  unfold read
  simp only [document, bind, Except.bind]
  unfold ofDocument
  simp only [Document.ofRoot, bind, Except.bind] at entries fields ⊢
  simp only [entries, fields, pure, Except.pure, Option.getD_some]

end InteractiveMobs.Config
