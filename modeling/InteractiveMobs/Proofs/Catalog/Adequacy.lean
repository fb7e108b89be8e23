import InteractiveMobs.Catalog.Defaults
import InteractiveMobs.Catalog.MessageSet

/-!
# Adequate message sets

Whoever sends a message names its key and supplies so many arguments, and the default catalog is
written for that. A message set is adequate if it has every default message and none of them asks
for more arguments than by default. Then every message that the default catalog serves can be
rendered (`Adequate.render_ok`). A document laid over the default one keeps to it if what it
overrides asks for no more (`adequate_layeredOver`).
-/

namespace InteractiveMobs
set_option autoImplicit false

namespace Defaults

/-- The default catalog has a message under the key, which asks for at most so many arguments. -/
def Serves (key : MessageKey) (supplied : Nat) : Prop :=
  ∃ raw, config.get? key = some raw ∧ (Template.compile raw).tokenCount ≤ supplied

theorem nodup_keys : ((entries.map fun e => ((⟨e.1⟩ : MessageKey), e.2)).map (·.1)).Nodup := by
  decide +kernel

theorem serves_iff {key : MessageKey} {supplied : Nat} :
    Serves key supplied ↔
      (entries.any fun e => e.1 = key.text && (Template.compile e.2).tokenCount ≤ supplied) := by
  have found (raw : String) : config.get? key = some raw ↔ (key.text, raw) ∈ entries := by
    unfold Config.get? config Config.ofEntries
    rw [Table.get?_ofList nodup_keys]
    constructor
    · intro h
      obtain ⟨e, mem, same⟩ := List.mem_map.1 (Table.mem_of_findEntry h)
      cases same
      exact mem
    · intro mem
      exact Table.findEntry_of_mem nodup_keys (List.mem_map_of_mem mem)
  simp only [Serves, found, List.any_eq_true, Bool.and_eq_true, decide_eq_true_eq]
  constructor
  · rintro ⟨raw, mem, few⟩
    exact ⟨(key.text, raw), mem, rfl, few⟩
  · rintro ⟨⟨text, raw⟩, mem, rfl, few⟩
    exact ⟨raw, mem, few⟩

instance (key : MessageKey) (supplied : Nat) : Decidable (Serves key supplied) :=
  decidable_of_iff _ serves_iff.symm

end Defaults

namespace MessageSet

theorem get?_ofConfig (config : Config) (key : MessageKey) :
    (ofConfig config).get? key = (config.get? key).map Template.compile := Table.get?_mapValues

/-- Every default message is there, and asks for no more arguments than by default. -/
def Adequate (messages : MessageSet) : Prop :=
  ∀ key raw, Defaults.config.get? key = some raw →
    ∃ template, messages.get? key = some template ∧
      template.tokenCount ≤ (Template.compile raw).tokenCount

/-- What the default catalog serves can be rendered. -/
theorem Adequate.render_ok {messages : MessageSet} (adequate : messages.Adequate)
    {key : MessageKey} {args : List String} (served : Defaults.Serves key args.length) :
    ∃ text, messages.render key args = .ok text := by
  obtain ⟨raw, default, few⟩ := served
  obtain ⟨template, found, fewer⟩ := adequate key raw default
  have enough : ¬ args.length < template.tokenCount := Nat.not_lt.2 (Nat.le_trans fewer few)
  simp only [render, found, Template.render, if_neg enough]
  exact ⟨_, rfl⟩

theorem adequate_defaults : (ofConfig Defaults.config).Adequate := by
  intro key raw default
  exact ⟨_, by rw [get?_ofConfig, default, Option.map_some], Nat.le_refl _⟩

/-- What a document overrides asks for no more arguments than by default. -/
def KeepsToDefaults (user : Config) : Prop :=
  ∀ key raw default, user.get? key = some raw → Defaults.config.get? key = some default →
    (Template.compile raw).tokenCount ≤ (Template.compile default).tokenCount

theorem adequate_layeredOver {user : Config} (keeps : KeepsToDefaults user) :
    (ofConfig (user.layeredOver Defaults.config)).Adequate := by
  intro key raw default
  rw [get?_ofConfig, Config.get?_layeredOver, default]
  cases own : user.get? key with
  | none => exact ⟨_, rfl, Nat.le_refl _⟩
  | some override => exact ⟨_, rfl, keeps key override raw own default⟩

end MessageSet
end InteractiveMobs
