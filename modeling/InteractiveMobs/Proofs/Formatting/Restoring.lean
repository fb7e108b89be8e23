import InteractiveMobs.Proofs.Formatting.Display

/-!
# Restoring a state

The restore prefix of a state brings it back just if the state is written: a format in front of the
color would be lost, a format that stands twice would come back once, and a code that is none would
not come back (`scan_restorePrefix_iff`). Scanning leads to written states only, whatever it scans,
so each of them is restored. Codes that are applied without being scanned may be anything and lead
elsewhere; but also then no format stands twice.
-/

namespace InteractiveMobs.Formatting
set_option autoImplicit false

/-- What a state may be given: a text to scan, or a code of a class, whatever code it is. -/
inductive Update where
  | scan (text : String)
  | apply (code : String) (kind : CodeClass)

namespace State

/-- The state after one more update. -/
def update (state : State) : Update → State
  | .scan text => state.scan text
  | .apply code kind => state.apply code kind

/-- No two formats are the same up to case. -/
def IsDistinct (state : State) : Prop :=
  state.formats.Pairwise fun a b => sameCode a b = false

/-! ## Any updates -/

theorem IsDistinct.scanChars {state : State} (h : IsDistinct state) (text : List Char) :
    IsDistinct (state.scanChars text) := by
  fun_induction State.scanChars state text with
  | case1 => exact h
  | case2 => exact h
  | case3 state code rest kind hkind ih => exact ih (distinct_apply h _ kind)
  | case4 state code rest hkind ih => exact ih h
  | case5 state c code rest hc ih => exact ih h

theorem IsDistinct.update {state : State} (h : IsDistinct state) (u : Update) :
    IsDistinct (state.update u) := by
  cases u with
  | scan text => exact h.scanChars _
  | apply code kind => exact distinct_apply h code kind

theorem IsDistinct.foldl_update {state : State} (h : IsDistinct state) (updates : List Update) :
    IsDistinct (updates.foldl State.update state) := by
  induction updates generalizing state with
  | nil => exact h
  | cons u updates ih => exact ih (h.update u)

/-! ## Scans -/

theorem Written.foldl_scan {state : State} (h : Written state) (texts : List String) :
    Written (texts.foldl State.scan state) := by
  induction texts generalizing state with
  | nil => exact h
  | cons text texts ih => exact ih (h.scanChars _)

/-- The characters of the formats. -/
theorem toLower_mem_of_format {code : Char} (h : CodeClass.of? code = some .format) :
    code.toLower ∈ ['k', 'l', 'm', 'n', 'o'] := by
  have between : 'k' ≤ code.toLower ∧ code.toLower ≤ 'o' := by
    unfold CodeClass.of? at h
    dsimp only at h
    split at h
    next => cases h
    next =>
      split at h
      next between => exact between
      next => split at h <;> cases h
  have low : 107 ≤ code.toLower.toNat := between.1
  have high : code.toLower.toNat ≤ 111 := between.2
  have same : code.toLower = Char.ofNat code.toLower.toNat := by simp
  rw [same]
  generalize code.toLower.toNat = n at low high
  obtain rfl | rfl | rfl | rfl | rfl :
    n = 107 ∨ n = 108 ∨ n = 109 ∨ n = 110 ∨ n = 111 := by omega
  all_goals decide

/-- There are five formats, and none is in effect twice. -/
theorem Written.length_formats_le {state : State} (h : Written state) :
    state.formats.length ≤ 5 := by
  have distinct : (state.formats.map lowerCode).Nodup := by
    refine List.pairwise_map.2 (h.distinct.imp fun {a b} apart same => ?_)
    rw [lowerCode_eq_iff.1 same] at apart
    cases apart
  have known : state.formats.map lowerCode ⊆ ['k', 'l', 'm', 'n', 'o'].map written := by
    intro lowered mem
    obtain ⟨code, format, rfl⟩ := List.mem_map.1 mem
    obtain ⟨c, rfl, hc⟩ := h.formats code format
    rw [lowerCode_written]
    exact List.mem_map_of_mem (toLower_mem_of_format hc)
  simpa using (distinct.subperm known).length_le

/-- A state comes back from its restore prefix just if scanning can lead to it. -/
theorem scan_restorePrefix_iff {state : State} :
    scan {} state.restorePrefix = state ↔ Written state := by
  constructor
  · intro restored
    rw [← restored]
    exact Written.fresh.scanChars _
  · intro h
    have restored := scanChars_restorePrefix h []
    rwa [List.append_nil] at restored

/-- Behind a reset, the restore prefix brings the state back from any other. -/
theorem scan_reset_restorePrefix {state : State} (h : Written state) (other : State) :
    other.scan (resetCode ++ state.restorePrefix) = state := by
  rw [scan, String.toList_append, scanChars_reset]
  exact scan_restorePrefix_iff.2 h

/-- **The restore prefix re-creates the state.** Whatever texts are scanned, the state they lead to
comes back from its restore prefix, and from any state if a reset stands before that. Its codes are
codes as they stand in text and its formats differ up to case, so there are five at most. That no
format stands twice holds after any updates. -/
theorem restorePrefix_recreates :
    (∀ texts : List String,
      scan {} (texts.foldl scan {}).restorePrefix = texts.foldl scan {} ∧
        (∀ other : State,
          other.scan (resetCode ++ (texts.foldl scan {}).restorePrefix) = texts.foldl scan {}) ∧
        Written (texts.foldl scan {}) ∧ (texts.foldl scan {}).formats.length ≤ 5) ∧
      (∀ state : State, scan {} state.restorePrefix = state ↔ Written state) ∧
      ∀ updates : List Update, IsDistinct (updates.foldl update {}) := by
  refine ⟨fun texts => ?_, fun state => scan_restorePrefix_iff, ?_⟩
  · have written : Written (texts.foldl scan {}) := Written.fresh.foldl_scan texts
    exact ⟨scan_restorePrefix_iff.2 written, scan_reset_restorePrefix written, written,
      written.length_formats_le⟩
  · have fresh : IsDistinct {} := .nil
    exact fresh.foldl_update

end State
end InteractiveMobs.Formatting
