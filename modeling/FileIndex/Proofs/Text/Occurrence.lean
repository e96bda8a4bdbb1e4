/-
Where a text occurs in another one, byte by byte, and what stands there character by character: an occurrence of
characters of its own never starts or ends inside a character (`occursAt_iff`), so that a text may be cut at both of
its ends (`Boundary.at?_ends`).
-/
import FileIndex.Projection.Boundary
import Mathlib.Data.List.Nodup

namespace FileIndex

variable {needle hay : String} {a b t : List Char} {s : Nat}

/-! ## Bytes -/

/-- The number of UTF-8 bytes of a text. -/
def byteSize : List Char → Nat
  | [] => 0
  | c :: t => c.utf8Size + byteSize t

@[simp]
theorem byteSize_nil : byteSize [] = 0 := rfl

@[simp]
theorem byteSize_cons (c : Char) (t : List Char) : byteSize (c :: t) = c.utf8Size + byteSize t := rfl

@[simp]
theorem byteSize_append (a b : List Char) : byteSize (a ++ b) = byteSize a + byteSize b := by
  induction a with
  | nil => rw [List.nil_append, byteSize_nil, Nat.zero_add]
  | cons c a ih => rw [List.cons_append, byteSize_cons, byteSize_cons, ih, Nat.add_assoc]

@[simp]
theorem size_utf8Encode (t : List Char) : t.utf8Encode.size = byteSize t := by
  induction t with
  | nil => rw [List.utf8Encode_nil, ByteArray.size_empty, byteSize_nil]
  | cons c t ih =>
    rw [List.utf8Encode_cons, ByteArray.size_append, List.utf8Encode_singleton, List.size_toByteArray,
      String.length_utf8EncodeChar, ih, byteSize_cons]

@[simp]
theorem byteSize_toList (t : String) : byteSize t.toList = t.utf8ByteSize := by
  rw [← size_utf8Encode, String.utf8Encode_toList, String.size_toByteArray]

@[simp]
theorem byteSize_eq_zero : byteSize t = 0 ↔ t = [] := by
  cases t with
  | nil => simp
  | cons c t => simp [Nat.ne_of_gt (Char.utf8Size_pos c)]

theorem byteSize_pos : 0 < byteSize t ↔ t ≠ [] := by
  rw [Nat.pos_iff_ne_zero, ne_eq, byteSize_eq_zero]

/-- Of two texts that another one starts with, the one with fewer bytes starts the other. -/
theorem isPrefix_of_byteSize_le (ha : a <+: t) (hb : b <+: t) (h : byteSize a ≤ byteSize b) : a <+: b := by
  rcases List.prefix_or_prefix_of_prefix ha hb with hab | ⟨rest, rfl⟩
  · exact hab
  · rw [byteSize_append] at h
    obtain rfl : rest = [] := byteSize_eq_zero.1 (by omega)
    exact ⟨[], by simp⟩

/-- Two texts of as many bytes that another one starts with are the same. -/
theorem eq_of_byteSize_eq (ha : a <+: t) (hb : b <+: t) (h : byteSize a = byteSize b) : a = b := by
  obtain ⟨rest, rfl⟩ := isPrefix_of_byteSize_le ha hb (Nat.le_of_eq h)
  rw [byteSize_append] at h
  obtain rfl : rest = [] := byteSize_eq_zero.1 (by omega)
  rw [List.append_nil]

/-! ## Occurrences -/

/-- Whether a text occurs in another one behind as many bytes. -/
def OccursAt (needle hay : String) (s : Nat) : Prop :=
  hay.toUTF8.extract s (s + needle.utf8ByteSize) = needle.toUTF8

theorem toByteArray_of_toList (h : hay.toList = a ++ needle.toList ++ b) :
    hay.toByteArray = a.utf8Encode ++ (needle.toByteArray ++ b.utf8Encode) := by
  rw [← String.utf8Encode_toList, h, List.utf8Encode_append, List.utf8Encode_append, String.utf8Encode_toList,
    ByteArray.append_assoc]

/-- What follows a part of a text occurs behind its bytes. -/
theorem occursAt_of_append (h : hay.toList = a ++ needle.toList ++ b) : OccursAt needle hay (byteSize a) := by
  have hextract := ByteArray.extract_append_size_add (a := a.utf8Encode) (b := needle.toByteArray ++ b.utf8Encode)
    (i := 0) (j := needle.utf8ByteSize)
  rw [Nat.add_zero, size_utf8Encode, ByteArray.extract_append_eq_left String.size_toByteArray.symm] at hextract
  rw [OccursAt, String.toUTF8_eq_toByteArray, String.toUTF8_eq_toByteArray, toByteArray_of_toList h, hextract]

/-- The first byte of a text starts a character. -/
theorem isUTF8FirstByte_toByteArray (h : 0 < needle.toByteArray.size) : needle.toByteArray[0].IsUTF8FirstByte := by
  have hlist := String.utf8Encode_toList (b := needle)
  cases hn : needle.toList with
  | nil => simp [← hlist, hn] at h
  | cons c t =>
    rw [hn, List.utf8Encode_cons] at hlist
    simp only [← hlist, List.utf8Encode_singleton]
    exact ByteArray.isUTF8FirstByte_getElem_zero_utf8EncodeChar_append

theorem OccursAt.le (hn : needle ≠ "") (h : OccursAt needle hay s) : s + needle.utf8ByteSize ≤ hay.utf8ByteSize := by
  rw [OccursAt, String.toUTF8_eq_toByteArray, String.toUTF8_eq_toByteArray] at h
  have hpos : 0 < needle.utf8ByteSize := Nat.pos_of_ne_zero (mt String.utf8ByteSize_eq_zero_iff.1 hn)
  have hsize := congrArg ByteArray.size h
  rw [ByteArray.size_extract, String.size_toByteArray, String.size_toByteArray] at hsize
  omega

/-- The first byte of an occurrence starts a character of the text, as it starts one of what occurs there. -/
theorem OccursAt.isValid (hn : needle ≠ "") (h : OccursAt needle hay s) : String.Pos.Raw.IsValid hay ⟨s⟩ := by
  have hle := h.le hn
  have hpos : 0 < needle.utf8ByteSize := Nat.pos_of_ne_zero (mt String.utf8ByteSize_eq_zero_iff.1 hn)
  have hlt : s < hay.utf8ByteSize := by omega
  refine String.Pos.Raw.isValid_iff_isUTF8FirstByte.2 (.inr ⟨hlt, ?_⟩)
  rw [OccursAt, String.toUTF8_eq_toByteArray, String.toUTF8_eq_toByteArray] at h
  have hbyte : needle.toByteArray[0] = hay.toByteArray[s] := by
    simp only [← h, ByteArray.getElem_extract, Nat.add_zero]
  rw [String.getUTF8Byte_eq_getElem, ← hbyte]
  exact isUTF8FirstByte_toByteArray hpos

/-- The bytes of a text occur only where its characters do. -/
theorem occursAt_iff (hn : needle ≠ "") :
    OccursAt needle hay s ↔ ∃ a b, hay.toList = a ++ needle.toList ++ b ∧ byteSize a = s := by
  constructor
  · intro h
    obtain ⟨x, y, rfl, hx⟩ := String.Pos.Raw.isValid_iff_exists_append.1 (h.isValid hn)
    obtain rfl : s = x.utf8ByteSize := congrArg String.Pos.Raw.byteIdx hx
    have hle : needle.utf8ByteSize ≤ y.toByteArray.size := by
      have := h.le hn
      rw [String.utf8ByteSize_append] at this
      rw [String.size_toByteArray]
      omega
    -- What occurs at the start of the second part is the needle.
    have hextract := ByteArray.extract_append_size_add (a := x.toByteArray) (b := y.toByteArray) (i := 0)
      (j := needle.utf8ByteSize)
    rw [OccursAt, String.toUTF8_eq_toByteArray, String.toUTF8_eq_toByteArray] at h
    rw [Nat.add_zero, String.size_toByteArray, ← String.toByteArray_append, h] at hextract
    have hy : needle.toList.utf8Encode ++ y.toByteArray.extract needle.utf8ByteSize y.toByteArray.size =
        y.toList.utf8Encode := by
      rw [String.utf8Encode_toList, String.utf8Encode_toList, hextract,
        ← ByteArray.extract_eq_extract_append_extract needle.utf8ByteSize (Nat.zero_le _) hle,
        ByteArray.extract_zero_size]
    obtain ⟨rest, hrest⟩ := List.isPrefix_of_utf8Encode_append_eq_utf8Encode _ hy
    refine ⟨x.toList, rest, ?_, byteSize_toList x⟩
    rw [String.toList_append, ← hrest, List.append_assoc]
  · rintro ⟨a, b, h, rfl⟩
    exact occursAt_of_append h

/-- Where one occurrence of a text starts inside another one, the text starts with what lies in front of that, and
what lies behind that both starts and ends it. -/
theorem exists_overlap {d e : List Char} (hd : hay.toList = d ++ needle.toList ++ e)
    (ha : hay.toList = a ++ needle.toList ++ b) (hlt : byteSize d < byteSize a)
    (hinside : byteSize a < byteSize d + needle.utf8ByteSize) : ∃ front border back, a = d ++ front ∧
      front ≠ [] ∧ border ≠ [] ∧ needle.toList = front ++ border ∧ needle.toList = border ++ back := by
  obtain ⟨front, rfl⟩ : d <+: a := isPrefix_of_byteSize_le (t := hay.toList)
    ⟨_, by rw [hd, List.append_assoc]⟩ ⟨_, by rw [ha, List.append_assoc]⟩ (Nat.le_of_lt hlt)
  rw [byteSize_append] at hlt hinside
  have hsize := byteSize_toList needle
  have htails : needle.toList ++ e = front ++ (needle.toList ++ b) := by
    simpa only [List.append_assoc, List.append_cancel_left_eq] using hd.symm.trans ha
  obtain ⟨border, hborder⟩ : front <+: needle.toList :=
    isPrefix_of_byteSize_le ⟨_, htails.symm⟩ (List.prefix_append ..) (by omega)
  have hsizes := congrArg byteSize hborder
  rw [byteSize_append] at hsizes
  have hshared : border ++ e = needle.toList ++ b := by
    rw [← List.append_cancel_left_eq front, ← List.append_assoc, hborder, htails]
  obtain ⟨back, hback⟩ : border <+: needle.toList :=
    isPrefix_of_byteSize_le ⟨_, hshared⟩ (List.prefix_append ..) (by omega)
  exact ⟨front, border, back, rfl, byteSize_pos.1 (by omega), byteSize_pos.1 (by omega), hborder.symm, hback.symm⟩

/-! ## Cuts -/

namespace Boundary

theorem between_none (before : Option Char) : between before none = true := by
  cases before <;> rfl

theorem between_self (c : Char) : between (some c) (some c) = false := by
  rw [between, bne_self_eq_false]

theorem cut?_append (a b : List Char) : cut? (byteSize a) (a ++ b) = some (a, b) := by
  induction a with
  | nil => rw [byteSize_nil, List.nil_append, cut?]
  | cons c a ih =>
    obtain ⟨n, hn⟩ : ∃ n, byteSize (c :: a) = n + 1 :=
      Nat.exists_eq_succ_of_ne_zero (Nat.ne_of_gt (byteSize_pos.2 (List.cons_ne_nil c a)))
    have hsize : n + 1 = c.utf8Size + byteSize a := by rw [← hn, byteSize_cons]
    rw [hn, List.cons_append, cut?, if_pos (by omega), hsize, Nat.add_sub_cancel_left, ih]
    rfl

/-- Between two parts of a text, its boundaries are as its characters are there. -/
theorem at?_append (h : hay.toList = a ++ b) : at? hay (byteSize a) = some (between a.getLast? b.head?) := by
  have hsize : hay.utf8ByteSize = byteSize a + byteSize b := by
    rw [← byteSize_toList, h, byteSize_append]
  unfold at?
  split
  next hend =>
    rcases hend with hend | hend
    · rw [byteSize_eq_zero.1 hend]
      rfl
    · obtain rfl : b = [] := byteSize_eq_zero.1 (by omega)
      rw [List.head?_nil, between_none]
  next => rw [h, cut?_append]; rfl

/-- A text may be cut at both ends of what occurs in it, and there are boundaries where its characters say so. -/
theorem at?_ends (hn : needle ≠ "") (h : hay.toList = a ++ needle.toList ++ b) :
    at? hay (byteSize a) = some (between a.getLast? needle.toList.head?) ∧
      at? hay (byteSize a + needle.utf8ByteSize) = some (between needle.toList.getLast? b.head?) := by
  have hne : needle.toList ≠ [] := mt String.toList_eq_nil_iff.1 hn
  constructor
  · rw [at?_append (h.trans (List.append_assoc ..)), List.head?_append_of_ne_nil _ hne]
  · rw [← byteSize_toList, ← byteSize_append, at?_append h, List.getLast?_append_of_ne_nil _ hne]

end Boundary

end FileIndex
