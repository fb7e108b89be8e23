import InteractiveMobs.Catalog.MessageSet
import Mathlib.Tactic.SplitIfs

/-!
# The order of keys

Tables list their keys in the order of their characters. Encoding a text in UTF-8 keeps this order:
the first byte of a character's code grows with the character, and where two first bytes are the
same, the codes are of one length and the bytes behind them are the digits of the rest
(`utf8EncodeChar_lt`). So the keys of a message set are listed in the order of their bytes
(`MessageSet.pairwise_keys`). A map that keeps them in no order gives the same list when they are
sorted (`MessageSet.mergeSort_eq_keys`).
-/

namespace InteractiveMobs
set_option autoImplicit false

/-! ## The code of a character -/

/-- The number of bytes behind the first one in the code of a character. -/
def utf8Rest (v : Nat) : Nat :=
  if v ≤ 0x7f then 0 else if v ≤ 0x7ff then 1 else if v ≤ 0xffff then 2 else 3

/-- What is left of a character in front of its last digits, of six bits each. -/
def utf8Front : Nat → Nat → Nat
  | 0, v => v
  | n + 1, v => utf8Front n v / 64

/-- The first byte of the code: what is left of the character in front of its last digits, and
above that the mark of their number. -/
def utf8Lead (v : Nat) : Nat :=
  if v ≤ 0x7f then v
  else if v ≤ 0x7ff then 0xc0 + utf8Front 1 v
  else if v ≤ 0xffff then 0xe0 + utf8Front 2 v
  else 0xf0 + utf8Front 3 v

/-- The last digits of a character as bytes. -/
def utf8Digits : Nat → Nat → List UInt8
  | 0, _ => []
  | n + 1, v => UInt8.ofNat (utf8Front n v % 64 + 0x80) :: utf8Digits n v

theorem utf8Front_le {m n : Nat} (h : m ≤ n) (count : Nat) :
    utf8Front count m ≤ utf8Front count n := by
  induction count with
  | zero => exact h
  | succ count ih => exact Nat.div_le_div_right ih

theorem toNat_le_of_char (c : Char) : c.val.toNat ≤ 0x10ffff := by
  rcases c.valid with low | ⟨-, high⟩ <;> omega

theorem utf8EncodeChar_eq (c : Char) :
    String.utf8EncodeChar c =
      UInt8.ofNat (utf8Lead c.val.toNat) :: utf8Digits (utf8Rest c.val.toNat) c.val.toNat := by
  have bound := toNat_le_of_char c
  unfold String.utf8EncodeChar utf8Lead utf8Rest
  dsimp only
  generalize c.val.toNat = v at bound ⊢
  split_ifs
  · rfl
  · have fits : v / 64 % 32 = v / 64 := Nat.mod_eq_of_lt (by omega)
    simp [utf8Digits, utf8Front, fits, Nat.add_comm]
  · have fits : v / 4096 % 16 = v / 4096 := Nat.mod_eq_of_lt (by omega)
    simp [utf8Digits, utf8Front, Nat.div_div_eq_div_mul, fits, Nat.add_comm]
  · have fits : v / 262144 % 8 = v / 262144 := Nat.mod_eq_of_lt (by omega)
    simp [utf8Digits, utf8Front, Nat.div_div_eq_div_mul, fits, Nat.add_comm]

/-- The first byte grows with the character, or it stays and so does the length of the code. -/
theorem utf8Lead_cases {m n : Nat} (h : m < n) :
    utf8Lead m < utf8Lead n ∨ utf8Lead m = utf8Lead n ∧ utf8Rest m = utf8Rest n ∧
      utf8Front (utf8Rest n) m = utf8Front (utf8Rest n) n := by
  unfold utf8Lead utf8Rest
  split_ifs <;> simp only [utf8Front, true_and] <;> omega

theorem utf8Lead_lt {v : Nat} (bound : v ≤ 0x10ffff) : utf8Lead v < 256 := by
  unfold utf8Lead
  simp only [utf8Front]
  split_ifs <;> omega

theorem ofNat_lt_ofNat {m n : Nat} (h : m < n) (bound : n < 256) :
    UInt8.ofNat m < UInt8.ofNat n := by
  rw [UInt8.lt_iff_toNat_lt, UInt8.toNat_ofNat', UInt8.toNat_ofNat']
  omega

/-- Digits are compared from the first one on, and what follows the last one does not matter. -/
theorem utf8Digits_lt {m n : Nat} (h : m < n) (count : Nat)
    (same : utf8Front count m = utf8Front count n) (xs ys : List UInt8) :
    utf8Digits count m ++ xs < utf8Digits count n ++ ys := by
  induction count with
  | zero => exact absurd same (Nat.ne_of_lt h)
  | succ count ih =>
    have quotient : utf8Front count m / 64 = utf8Front count n / 64 := same
    refine List.cons_lt_cons_iff.2 ?_
    rcases Nat.lt_or_eq_of_le (utf8Front_le (Nat.le_of_lt h) count) with lt | eq
    · exact .inl (ofNat_lt_ofNat (by omega) (by omega))
    · exact .inr ⟨by rw [eq], ih eq⟩

/-- The code of a higher character is higher, whatever follows the two. -/
theorem utf8EncodeChar_lt {a b : Char} (h : a < b) (xs ys : List UInt8) :
    String.utf8EncodeChar a ++ xs < String.utf8EncodeChar b ++ ys := by
  rw [utf8EncodeChar_eq, utf8EncodeChar_eq]
  have below : a.val.toNat < b.val.toNat := h
  refine List.cons_lt_cons_iff.2 ?_
  rcases utf8Lead_cases below with lt | ⟨lead, rest, front⟩
  · exact .inl (ofNat_lt_ofNat lt (utf8Lead_lt (toNat_le_of_char b)))
  · refine .inr ⟨by rw [lead], ?_⟩
    rw [rest]
    exact utf8Digits_lt below _ front xs ys

/-! ## Texts -/

theorem flatMap_utf8EncodeChar_lt {l₁ l₂ : List Char} (h : l₁ < l₂) :
    l₁.flatMap String.utf8EncodeChar < l₂.flatMap String.utf8EncodeChar := by
  induction l₁ generalizing l₂ with
  | nil =>
    cases l₂ with
    | nil => cases h
    | cons b l₂ =>
      rw [List.flatMap_cons, utf8EncodeChar_eq]
      exact List.nil_lt_cons _ _
  | cons a l₁ ih =>
    cases l₂ with
    | nil => cases h
    | cons b l₂ =>
      rw [List.flatMap_cons, List.flatMap_cons]
      rcases List.cons_lt_cons_iff.1 h with lt | ⟨rfl, lt⟩
      · exact utf8EncodeChar_lt lt _ _
      · exact List.append_left_lt (ih lt)

/-- The bytes of a key in UTF-8. -/
def MessageKey.bytes (key : MessageKey) : List UInt8 := key.text.toUTF8.data.toList

theorem MessageKey.bytes_lt {a b : MessageKey} (h : compare a b = .lt) : a.bytes < b.bytes := by
  have below : a.text < b.text := compareOfLessAndEq_eq_lt.1 h
  have coded (key : MessageKey) :
      key.bytes = key.text.toList.flatMap String.utf8EncodeChar := by
    show key.text.toByteArray.data.toList = _
    rw [← String.utf8Encode_toList, List.utf8Encode, List.data_toByteArray]
  rw [coded, coded]
  exact flatMap_utf8EncodeChar_lt below

/-! ## Listings -/

/-- The keys of the document, each once, in the order of their bytes. -/
structure Config.IsListing (config : Config) (keys : List MessageKey) : Prop where
  increasing : keys.Pairwise fun a b => a.bytes < b.bytes
  complete : ∀ key, key ∈ keys ↔ ∃ raw, config.get? key = some raw

namespace MessageSet

theorem pairwise_keys (messages : MessageSet) :
    messages.keys.Pairwise fun a b => a.bytes < b.bytes :=
  List.pairwise_map.2 (messages.templates.sorted.imp MessageKey.bytes_lt)

/-- The keys of a set, however they are shuffled, are listed like this once they are sorted by their
bytes. -/
theorem mergeSort_eq_keys {messages : MessageSet} {shuffled : List MessageKey}
    (once : shuffled.Nodup)
    (complete : ∀ key, key ∈ shuffled ↔ ∃ template, messages.get? key = some template) :
    shuffled.mergeSort (fun a b => decide (a.bytes ≤ b.bytes)) = messages.keys := by
  have same : shuffled.Perm messages.keys :=
    (List.perm_ext_iff_of_nodup once messages.templates.nodup_keys).2 fun key =>
      (complete key).trans Table.mem_keys_iff.symm
  have sorted : (shuffled.mergeSort fun a b => decide (a.bytes ≤ b.bytes)).Pairwise
      fun a b => decide (a.bytes ≤ b.bytes) = true := by
    refine List.pairwise_mergeSort (fun a b c first second => ?_) (fun a b => ?_) shuffled
    · exact decide_eq_true (List.le_trans (of_decide_eq_true first) (of_decide_eq_true second))
    · simpa using List.le_total a.bytes b.bytes
  have listing : messages.keys.Pairwise fun a b => decide (a.bytes ≤ b.bytes) = true :=
    messages.pairwise_keys.imp fun lt => decide_eq_true (List.le_of_lt lt)
  refine List.Perm.eq_of_pairwise ?_ sorted listing ((List.mergeSort_perm _ _).trans same)
  intro a b _ _ le ge
  have le := of_decide_eq_true le
  have ge := of_decide_eq_true ge
  cases order : compare a b with
  | lt => exact absurd (MessageKey.bytes_lt order) (List.not_lt.2 ge)
  | eq => exact Std.LawfulEqCmp.eq_of_compare order
  | gt => exact absurd (MessageKey.bytes_lt (Std.OrientedCmp.lt_of_gt order)) (List.not_lt.2 le)

theorem keys_ofConfig (config : Config) : (ofConfig config).keys = config.messages.keys := by
  simp [keys, ofConfig, Table.keys, Table.mapValues]

theorem length_keys (messages : MessageSet) : messages.keys.length = messages.size :=
  List.length_map _

/-- A message set lists the keys of the document it was made of. -/
theorem isListing_keys (config : Config) : config.IsListing (ofConfig config).keys where
  increasing := pairwise_keys _
  complete key := by
    rw [keys_ofConfig]
    exact Table.mem_keys_iff

end MessageSet
end InteractiveMobs
