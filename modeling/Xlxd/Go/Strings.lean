/-
  Xlxd.Go.Strings — the Go `strings` functions the client and the daemon call, on Go
  strings taken as Lean `String`s. Every separator the code passes is one byte ('.', '=',
  ':'), so `Split` and `SplitN` are modelled for a one-character separator. On valid UTF-8,
  Go's byte-wise `HasPrefix`, `HasSuffix`, `Contains` and `<` agree with the
  character-wise ones here.
-/

import Mathlib.Data.List.Infix
import Mathlib.Data.List.Basic
import Mathlib.Data.String.Basic

namespace Xlxd.Go

/-- `strings.Split(s, sep)`: the pieces between the separators (one more than there are). -/
def split (s : String) (sep : Char) : List String := (s.toList.splitOn sep).map String.mk

/-- The characters before the first `sep`, and what follows it (`none` when there is none). -/
def cut (sep : Char) : List Char → List Char × Option (List Char)
  | [] => ([], none)
  | c :: cs => if c = sep then ([], some cs) else ((c :: (cut sep cs).1), (cut sep cs).2)

/-- `strings.SplitN(s, sep, n)` for `n ≥ 0`: at most `n` pieces, the last one the rest. -/
def splitN (s : String) (sep : Char) : Nat → List String
  | 0 => []
  | 1 => [s]
  | n + 2 =>
    match cut sep s.toList with
    | (_, none) => [s]
    | (before, some after) => String.mk before :: splitN (String.mk after) sep (n + 1)

/-- `strings.HasPrefix(s, prefix)`. -/
def hasPrefix (s pre : String) : Bool := pre.toList.isPrefixOf s.toList

/-- `strings.HasSuffix(s, suffix)`. -/
def hasSuffix (s suf : String) : Bool := suf.toList.isSuffixOf s.toList

/-- `strings.Contains(s, substr)`. -/
def contains (s sub : String) : Bool := decide (sub.toList <:+: s.toList)

/-- `len(s)`: the length in bytes. -/
def len (s : String) : Nat := s.utf8ByteSize

/-- The characters whose bytes all lie within the first `n`. -/
def takeBytes : Nat → List Char → List Char
  | _, [] => []
  | n, c :: cs => if c.utf8Size ≤ n then c :: takeBytes (n - c.utf8Size) cs else []

/-- `s[0:n]`, for `n ≤ len(s)`: the first `n` bytes of `s`. When byte `n` falls inside a
character, Go keeps that character's first bytes, which are not UTF-8 and which no `String`
holds; the slice here then stops before the character. -/
def sliceTo (s : String) (n : Nat) : String := String.mk (takeBytes n s.toList)

/-- Go's `a < b` on strings, byte by byte: on valid UTF-8 the order of the code points. -/
def lt (a b : String) : Bool := decide (a.toList < b.toList)

/-- The bytes of a Go string. Every string the modelled code builds is valid UTF-8, so they
are the UTF-8 encoding of the Lean `String`. -/
def bytes (s : String) : List UInt8 := s.toUTF8.data.toList

/-- The bytes of `string(b)` for a byte `b`: Go converts an integer to the UTF-8 encoding of
the code point it is, the byte itself below 0x80 and two bytes from 0x80 on. -/
def runeBytes (b : UInt8) : List UInt8 :=
  if b < 0x80 then [b] else [0xC0 + b / 64, 0x80 + b % 64]

/-! ## Lemmas -/

@[simp] theorem lt_iff {a b : String} : lt a b = true ↔ a < b := by
  simp [lt, String.lt_iff_toList_lt]

@[simp] theorem hasPrefix_iff {s pre : String} : hasPrefix s pre = true ↔ pre.toList <+: s.toList := by
  simp [hasPrefix]

@[simp] theorem hasSuffix_iff {s suf : String} : hasSuffix s suf = true ↔ suf.toList <:+ s.toList := by
  simp [hasSuffix]

@[simp] theorem len_eq_zero {s : String} : len s = 0 ↔ s = "" := by
  cases s
  simp [len, String.utf8ByteSize_mk, String.ext_iff]

@[simp] theorem contains_iff {s sub : String} : contains s sub = true ↔ sub.toList <:+: s.toList := by
  simp [contains]

@[simp] theorem singleton_infix_iff {c : Char} {l : List Char} : [c] <:+: l ↔ c ∈ l := by
  constructor
  · exact fun h => h.subset (List.mem_singleton_self c)
  · intro h
    obtain ⟨s, t, rfl⟩ := List.append_of_mem h
    exact ⟨s, t, by simp⟩

/-- `strings.Contains(s, "c")` for a one-character needle is membership. -/
@[simp] theorem contains_singleton {s : String} {c : Char} :
    contains s (String.singleton c) = true ↔ c ∈ s.toList := by
  simp

theorem cut_append {sep : Char} {a : List Char} (h : sep ∉ a) (b : List Char) :
    cut sep (a ++ sep :: b) = (a, some b) := by
  induction a with
  | nil => simp [cut]
  | cons c cs ih =>
    have hc : c ≠ sep := fun e => h (e ▸ List.mem_cons_self c cs)
    simp [cut, hc, ih (fun m => h (List.mem_cons_of_mem c m))]

/-- A list holding `sep` is cut at its first `sep`. -/
theorem cut_of_mem {sep : Char} {l : List Char} (h : sep ∈ l) :
    ∃ a b, sep ∉ a ∧ l = a ++ sep :: b ∧ cut sep l = (a, some b) := by
  induction l with
  | nil => simp at h
  | cons c cs ih =>
    by_cases hc : c = sep
    · exact ⟨[], cs, by simp, by simp [hc], by simp [cut, hc]⟩
    · obtain ⟨a, b, ha, rfl, hcut⟩ := ih (by simpa [Ne.symm hc] using h)
      exact ⟨c :: a, b, by simp [ha, Ne.symm hc], rfl, by simp [cut, hc, hcut]⟩

/-- `SplitN(a + sep + b, sep, 2)` with no `sep` in `a` is `[a, b]`. -/
theorem splitN_two_append {a b : String} {sep : Char} (h : sep ∉ a.toList) :
    splitN (a ++ String.singleton sep ++ b) sep 2 = [a, b] := by
  have : (a ++ String.singleton sep ++ b).toList = a.toList ++ sep :: b.toList := by simp
  simp only [splitN]; rw [this, cut_append h]; rfl

/-- A string holding `sep` splits in two at its first `sep`. -/
theorem splitN_two_of_mem {s : String} {sep : Char} (h : sep ∈ s.toList) :
    ∃ a b : String, sep ∉ a.toList ∧ s = a ++ String.singleton sep ++ b ∧ splitN s sep 2 = [a, b] := by
  obtain ⟨a, b, ha, hs, -⟩ := cut_of_mem h
  have hs' : s = String.mk a ++ String.singleton sep ++ String.mk b := String.ext (by simpa using hs)
  exact ⟨String.mk a, String.mk b, ha, hs', hs' ▸ splitN_two_append ha⟩

theorem takeBytes_append (pre post : List Char) : takeBytes (String.utf8Len pre) (pre ++ post) = pre := by
  induction pre with
  | nil =>
    cases post with
    | nil => rfl
    | cons c cs => exact if_neg (Nat.not_le.mpr c.utf8Size_pos)
  | cons c pre ih => simp [takeBytes, ih]

/-- A string whose first `n` bytes are the whole characters of `pre` is sliced to `pre`:
where the cut falls between two characters, `sliceTo` is Go's byte slice. -/
theorem sliceTo_append {pre : String} (post : String) {n : Nat} (h : len pre = n) :
    sliceTo (pre ++ post) n = pre := by
  subst h
  obtain ⟨cs⟩ := pre
  simp [sliceTo, len, takeBytes_append]

example : sliceTo "ééééééé" 12 = "éééééé" ∧ sliceTo "aéééééé" 12 = "aééééé" := by decide

/-! ### Bytes -/

theorem bytes_eq_flatMap (s : String) : bytes s = s.data.flatMap String.utf8EncodeChar := rfl

@[simp] theorem bytes_append (s t : String) : bytes (s ++ t) = bytes s ++ bytes t := by
  simp [bytes_eq_flatMap]

set_option maxRecDepth 4000 in
/-- The string of one byte's code point, `string(b)`, is `runeBytes b`: a table over the
256 bytes. -/
theorem bytes_singleton_ofNat (b : UInt8) : bytes (String.singleton (Char.ofNat b.toNat)) = runeBytes b := by
  have table : ∀ n, n < 256 → String.utf8EncodeChar (Char.ofNat n) = runeBytes (UInt8.ofNat n) := by
    decide
  have hb : UInt8.ofNat b.toNat = b := UInt8.eq_of_toBitVec_eq (by simp [UInt8.ofNat, UInt8.toNat])
  rw [bytes_eq_flatMap, String.data_singleton, List.flatMap_singleton, table b.toNat b.toNat_lt_size, hb]

theorem length_le_flatMap_runeBytes (l : List UInt8) : l.length ≤ (l.flatMap runeBytes).length := by
  induction l with
  | nil => simp
  | cons b l ih =>
    have hb : 1 ≤ (runeBytes b).length := by unfold runeBytes; split <;> simp
    rw [List.flatMap_cons, List.length_append, List.length_cons]
    omega

/-- Re-encoding bytes as code points leaves them as they are exactly when all are below
0x80: a byte from 0x80 on becomes two. -/
theorem flatMap_runeBytes_eq_self_iff (l : List UInt8) : l.flatMap runeBytes = l ↔ ∀ b ∈ l, b < 0x80 := by
  induction l with
  | nil => simp
  | cons b l ih =>
    rw [List.flatMap_cons, List.forall_mem_cons, ← ih]
    by_cases hb : b < 0x80
    · simp [runeBytes, hb]
    · refine iff_of_false (fun h => ?_) (fun h => hb h.1)
      have hlen := congrArg List.length h
      have := length_le_flatMap_runeBytes l
      simp only [runeBytes, if_neg hb, List.length_append, List.length_cons, List.length_nil] at hlen
      omega

end Xlxd.Go
