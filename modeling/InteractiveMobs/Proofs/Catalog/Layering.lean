import InteractiveMobs.Proofs.Catalog.Adequacy
import InteractiveMobs.Proofs.Catalog.DefaultDocument
import InteractiveMobs.Proofs.Catalog.KeyOrder
import InteractiveMobs.Proofs.Storage.Completion

/-!
# Documents in layers

Whoever writes a catalog puts down only the messages that should differ from the defaults.
`Config.IsLayered` says what one document laid over another is: the upper one has the say on every
message that it has. There is exactly one such document (`Config.isLayered_iff`). In a stack of
layers the topmost one that has a message decides on it (`Config.get?_stack`), however the stack was
put together (`Config.stack_layeredOver_stack`). Loading lays the document of a home over the
defaults, whatever the permissions of its file (`CatalogFile.run_loadMerged`), and compiling comes
to the same for each message as compiling the layer that it is from (`Config.upper_decides`).
-/

namespace InteractiveMobs
set_option autoImplicit false

/-! ## One document over another -/

namespace Config

/-- `merged` is `upper` laid over `lower`. -/
structure IsLayered (upper lower merged : Config) : Prop where
  version : merged.version = upper.version
  decided : ∀ key raw, upper.get? key = some raw → merged.get? key = some raw
  inherited : ∀ key, upper.get? key = none → merged.get? key = lower.get? key
  absent : ∀ key, merged.get? key = none ↔ upper.get? key = none ∧ lower.get? key = none
  increasing : merged.messages.keys.Pairwise fun a b => a.bytes < b.bytes
  union : ∀ key, key ∈ merged.messages.keys ↔
    key ∈ upper.messages.keys ∨ key ∈ lower.messages.keys

theorem isLayered_layeredOver (upper lower : Config) :
    IsLayered upper lower (upper.layeredOver lower) where
  version := rfl
  decided key raw own := by rw [get?_layeredOver, own, Option.some_or]
  inherited key lacks := by rw [get?_layeredOver, lacks, Option.none_or]
  absent key := by rw [get?_layeredOver, Option.or_eq_none_iff]
  increasing := by
    rw [← MessageSet.keys_ofConfig]
    exact MessageSet.pairwise_keys _
  union key := Table.mem_keys_overlay

/-- What the upper document has and what it lacks leave no choice. -/
theorem isLayered_iff {upper lower merged : Config} :
    IsLayered upper lower merged ↔ merged = upper.layeredOver lower := by
  constructor
  · intro layered
    refine ext_get? layered.version fun key => ?_
    rw [get?_layeredOver]
    cases own : upper.get? key with
    | none => rw [Option.none_or, layered.inherited key own]
    | some raw => rw [Option.some_or, layered.decided key raw own]
  · rintro rfl
    exact isLayered_layeredOver upper lower

/-- Documents laid over a base, the first one on top of all. -/
def stack (upper : List Config) (base : Config) : Config := upper.foldr layeredOver base

/-- A stack on a stack is one stack. -/
theorem stack_layeredOver_stack (upper lower : List Config) (middle base : Config) :
    (stack upper middle).layeredOver (stack lower base) =
      stack (upper ++ middle :: lower) base := by
  induction upper with
  | nil => rfl
  | cons top rest ih =>
    show (top.layeredOver (stack rest middle)).layeredOver (stack lower base) =
      top.layeredOver (stack (rest ++ middle :: lower) base)
    rw [layeredOver_assoc, ih]

theorem get?_stack (upper : List Config) (base : Config) (key : MessageKey) :
    (stack upper base).get? key = (upper ++ [base]).findSome? fun layer => layer.get? key := by
  induction upper with
  | nil =>
    show base.get? key = _
    rw [List.nil_append, List.findSome?_singleton]
  | cons top rest ih =>
    show (top.layeredOver (stack rest base)).get? key = _
    rw [get?_layeredOver, ih, List.cons_append, List.findSome?_cons]
    cases top.get? key <;> rfl

end Config

/-- Rendering a message depends on its own text alone. -/
theorem MessageSet.render_ofConfig_congr {a b : Config} {key : MessageKey}
    (same : a.get? key = b.get? key) (args : List String) :
    (ofConfig a).render key args = (ofConfig b).render key args := by
  rw [render, render, get?_ofConfig, get?_ofConfig, same]

/-! ## The document of a home over the defaults -/

namespace CatalogFile

theorem unrefused_loadMerged (home : Path) (tree : FileTree) :
    Script.Unrefused (loadMerged home).run tree :=
  Task.unrefused_bind (unrefused_load home.catalogFile tree) fun _ _ => .done

/-- A catalog that can be read is loaded over the defaults, and all files stay as they are. -/
theorem run_loadMerged {home : Path} {tree : FileTree} {document : String} {user : Config}
    (found : tree.read home.catalogFile = .ok document.toUTF8)
    (parsed : Config.read document = .ok user) :
    (Script.run (loadMerged home).run tree).result = .ok (user.layeredOver Defaults.config) ∧
      (Script.run (loadMerged home).run tree).tree = tree := by
  have gives : (loadMerged home).Gives tree (fun _ _ => False) fun merged after =>
      merged = user.layeredOver Defaults.config ∧ after = tree := by
    refine Task.gives_bind (fun config after => config = user ∧ after = tree)
      (gives_load_of_read found parsed ⟨rfl, rfl⟩) ?_
    rintro _ _ ⟨rfl, rfl⟩
    exact Task.gives_pure ⟨rfl, rfl⟩
  have ended := gives (unrefused_loadMerged home tree)
  cases result : (Script.run (loadMerged home).run tree).result with
  | error error =>
    rw [result] at ended
    exact ended.elim
  | ok merged =>
    rw [result] at ended
    exact ⟨congrArg Except.ok ended.1, ended.2⟩

end CatalogFile

namespace Config

/-- **The upper layer decides.** One document laid over another is what `IsLayered` says, and
nothing else is. Three layers may be put together from above or from below, and so may any number of
them, with the topmost one that has a message deciding on it. A layer over itself is itself, and one
that lies below already adds nothing. Every message renders as in the layer it is from. Loading the
catalog of a home, if there is a document that can be read, gives it laid over what the document of
the defaults holds, so none of the defaults is missing. -/
theorem upper_decides (a b c : Config) :
    (∀ merged, IsLayered a b merged ↔ merged = a.layeredOver b) ∧
    (a.layeredOver b).layeredOver c = a.layeredOver (b.layeredOver c) ∧
    (∀ upper lower, (stack upper a).layeredOver (stack lower b) = stack (upper ++ a :: lower) b ∧
      ∀ key, (stack upper a).get? key = (upper ++ [a]).findSome? fun layer => layer.get? key) ∧
    a.layeredOver a = a ∧
    (a.layeredOver b).layeredOver b = a.layeredOver b ∧
    (∀ key args,
      (∀ raw, a.get? key = some raw →
        (MessageSet.ofConfig (a.layeredOver b)).render key args =
          (MessageSet.ofConfig a).render key args) ∧
      (a.get? key = none →
        (MessageSet.ofConfig (a.layeredOver b)).render key args =
          (MessageSet.ofConfig b).render key args)) ∧
    ∀ (home : Path) (tree : FileTree) (document : String),
      tree.read home.catalogFile = .ok document.toUTF8 → read document = .ok a →
      ∃ defaults, read Defaults.document = .ok defaults ∧
        let finished := Script.run (CatalogFile.loadMerged home).run tree
        finished.result = .ok (a.layeredOver defaults) ∧ finished.tree = tree ∧
          ∀ key ∈ defaults.messages.keys, key ∈ (a.layeredOver defaults).messages.keys := by
  have layered := isLayered_layeredOver a b
  refine ⟨fun merged => isLayered_iff, layeredOver_assoc a b c, fun upper lower => ?_,
    layeredOver_self a, ?_, fun key args => ⟨fun raw own => ?_, fun lacks => ?_⟩,
    fun home tree document found parsed => ?_⟩
  · exact ⟨stack_layeredOver_stack upper lower a b, get?_stack upper a⟩
  · rw [layeredOver_assoc, layeredOver_self]
  · exact MessageSet.render_ofConfig_congr ((layered.decided key raw own).trans own.symm) args
  · exact MessageSet.render_ofConfig_congr (layered.inherited key lacks) args
  · obtain ⟨result, kept⟩ := CatalogFile.run_loadMerged found parsed
    refine ⟨Defaults.config, Defaults.read_document, result, kept, fun key shipped => ?_⟩
    exact ((isLayered_layeredOver a Defaults.config).union key).2 (.inr shipped)

/-- A message over one of the defaults, and one that they lack. -/
def houseRules : Config := ofEntries [("house-rule", "Be kind."), ("mob-name-text", "&d\x7b\x7d")]

/-- A home with these rules in a file that anyone may read. -/
def sharedHome : FileTree where
  entry?
    | ["home"] | [".mobportals", "home"] => some (.directory FileTree.directoryMode)
    | ["messages.yaml", ".mobportals", "home"] =>
      some (.file FileTree.fileMode houseRules.write.toUTF8)
    | _ => none

theorem sharedHome_loads :
    let home : Path := ⟨"/home"⟩
    let merged := houseRules.layeredOver Defaults.config
    sharedHome.read home.catalogFile = .ok houseRules.write.toUTF8 ∧
      read houseRules.write = .ok houseRules ∧
      (Script.run (CatalogFile.loadMerged home).run sharedHome).result = .ok merged ∧
      (MessageSet.ofConfig merged).render ⟨"mob-name-text"⟩ ["spawn"] =
        (MessageSet.ofConfig houseRules).render ⟨"mob-name-text"⟩ ["spawn"] ∧
      (MessageSet.ofConfig merged).render ⟨"warp-success"⟩ ["spawn"] =
        (MessageSet.ofConfig Defaults.config).render ⟨"warp-success"⟩ ["spawn"] := by
  have found : sharedHome.read (Path.catalogFile ⟨"/home"⟩) = .ok houseRules.write.toUTF8 := rfl
  have parsed : read houseRules.write = .ok houseRules := by
    obtain ⟨nodes, hold, document⟩ := document_write houseRules
    rw [read_of_document hold document, ofList_texts]
  obtain ⟨-, -, -, -, -, renders, loads⟩ := upper_decides houseRules Defaults.config {}
  obtain ⟨defaults, shipped, result, -⟩ := loads ⟨"/home"⟩ sharedHome _ found parsed
  obtain rfl : Defaults.config = defaults :=
    Except.ok.inj (Defaults.read_document.symm.trans shipped)
  exact ⟨found, parsed, result, (renders _ _).1 "&d\x7b\x7d" rfl, (renders _ _).2 rfl⟩

end Config
end InteractiveMobs
