import SqlRecords.Proofs.Text.Pieces
import SqlRecords.Value.Uuid

/-!
# Identifiers read back

Bytes are read back from their hexadecimal digits, and an identifier from its text. The first
form that is tried, 32 digits in a row, cannot be a text of 36 characters.
-/

namespace SqlRecords

/-! ### Hexadecimal digits -/

namespace Text

theorem hexValue?_hexDigit : ∀ n < 16, hexValue? (hexDigit n) = some n := by decide

theorem hexDigit_ne_dash : ∀ n < 16, hexDigit n ≠ '-' := by decide

theorem hexOfBytes_cons (b : UInt8) (bytes : List UInt8) :
    hexOfBytes (b :: bytes) =
      hexDigit (b.toNat / 16) :: hexDigit (b.toNat % 16) :: hexOfBytes bytes := rfl

theorem hexOfBytes_flatten (groups : List (List UInt8)) :
    (groups.map hexOfBytes).flatten = hexOfBytes groups.flatten := by
  induction groups with
  | nil => rfl
  | cons g rest ih =>
    rw [List.map_cons, List.flatten_cons, ih, List.flatten_cons, hexOfBytes, hexOfBytes, hexOfBytes,
      List.flatMap_append]

theorem length_hexOfBytes (bytes : List UInt8) :
    (hexOfBytes bytes).length = 2 * bytes.length := by
  induction bytes with
  | nil => rfl
  | cons b rest ih =>
    rw [hexOfBytes_cons, List.length_cons, List.length_cons, ih, List.length_cons]
    omega

theorem dash_notMem_hexOfBytes (bytes : List UInt8) : '-' ∉ hexOfBytes bytes := by
  induction bytes with
  | nil => exact List.not_mem_nil
  | cons b rest ih =>
    have size : b.toNat < 256 := b.toNat_lt
    have high := hexDigit_ne_dash (b.toNat / 16) (by omega)
    have low := hexDigit_ne_dash (b.toNat % 16) (by omega)
    rw [hexOfBytes_cons, List.mem_cons, List.mem_cons]
    rintro (same | same | later)
    · exact high same.symm
    · exact low same.symm
    · exact ih later

theorem bytesOfHex?_hexOfBytes (bytes : List UInt8) :
    bytesOfHex? (hexOfBytes bytes) = some bytes := by
  induction bytes with
  | nil => rfl
  | cons b rest ih =>
    have size : b.toNat < 256 := b.toNat_lt
    have value : 16 * (b.toNat / 16) + b.toNat % 16 = b.toNat := by omega
    rw [hexOfBytes_cons, bytesOfHex?, hexValue?_hexDigit _ (by omega),
      hexValue?_hexDigit _ (by omega), ih]
    simp only [Option.bind_eq_bind, Option.bind_some, value, UInt8.ofNat_toNat]

theorem length_of_bytesOfHex? {s : List Char} {bytes : List UInt8}
    (read : bytesOfHex? s = some bytes) : s.length = 2 * bytes.length := by
  induction s using bytesOfHex?.induct generalizing bytes with
  | case1 =>
    obtain rfl := Option.some.inj read
    rfl
  | case2 => exact absurd read nofun
  | case3 high low rest ih =>
    simp only [bytesOfHex?, Option.bind_eq_bind, Option.bind_eq_some_iff] at read
    obtain ⟨_, -, _, -, more, later, same⟩ := read
    obtain rfl := Option.some.inj same
    rw [List.length_cons, List.length_cons, ih later, List.length_cons]
    omega

end Text

/-! ### Identifiers -/

namespace Uuid

theorem groups_flatten (u : Uuid) : u.groups.flatten = u.bytes := by
  simp only [groups, List.flatten_cons, List.flatten_nil, List.append_nil]
  have tail (n m : Nat) : (u.bytes.drop n).take m ++ u.bytes.drop (n + m) = u.bytes.drop n := by
    rw [← List.drop_drop, List.take_append_drop]
  rw [tail 8 2, tail 6 2, tail 4 2, List.take_append_drop]

theorem length_groups (u : Uuid) : u.groups.map List.length = [4, 2, 2, 2, 6] := by
  simp [groups, u.size]

theorem toList_text (u : Uuid) :
    u.text.toList = ['-'].intercalate (u.groups.map Text.hexOfBytes) := by
  rw [text, String.toList_intercalate, List.map_map]
  congr 1
  refine List.map_congr_left fun g _ => ?_
  exact String.toList_ofList

theorem length_text (u : Uuid) : u.text.toList.length = 36 := by
  rw [toList_text]
  simp [groups, Text.length_hexOfBytes, u.size]

theorem ofGroups?_text (u : Uuid) : ofGroups? u.text.toList = some u := by
  have parts : Text.pieces '-' u.text.toList = u.groups.map Text.hexOfBytes := by
    rw [toList_text]
    refine Text.pieces_intercalate (fun w member => ?_) nofun
    obtain ⟨g, -, rfl⟩ := List.mem_map.mp member
    exact Text.dash_notMem_hexOfBytes g
  have sizes : (u.groups.map Text.hexOfBytes).map List.length = [8, 4, 4, 4, 12] := by
    have double : List.length ∘ Text.hexOfBytes = (2 * ·) ∘ List.length :=
      funext Text.length_hexOfBytes
    rw [List.map_map, double, ← List.map_map, length_groups]
    rfl
  simp only [ofGroups?, parts, sizes, if_true]
  rw [Text.hexOfBytes_flatten, groups_flatten, ofDigits?, Text.bytesOfHex?_hexOfBytes]
  exact dif_pos u.size

theorem ofDigits?_text (u : Uuid) : ofDigits? u.text.toList = none := by
  rw [ofDigits?, Option.bind_eq_none_iff]
  intro bytes read
  have size := Text.length_of_bytesOfHex? read
  rw [length_text] at size
  exact dif_neg (by omega)

theorem ofChars?_text (u : Uuid) : ofChars? u.text.toList = some u := by
  rw [ofChars?, ofDigits?_text, ofGroups?_text]
  rfl

end Uuid

end SqlRecords
