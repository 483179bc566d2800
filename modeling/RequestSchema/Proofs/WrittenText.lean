import Mathlib.Data.List.Basic
import RequestSchema.Encoding.Detect
import RequestSchema.Json.Printer
import RequestSchema.Proofs.PrintedFloats

set_option autoImplicit false

/-!
# JSON text in files

Printed JSON text is plain: it is ASCII, and it has no carriage returns. What is written of it into
a file is read from there as it was.
-/

namespace RequestSchema

/-! ## Plain characters -/

/-- Characters of one byte that is no zero, none of which is changed when lines are unified. -/
def AllPlain (cs : List CodePoint) : Prop :=
  ∀ c ∈ cs, (0 < c.toNat ∧ c.toNat < 0x80) ∧ c ≠ '\r'

theorem allPlain_nil : AllPlain [] := nofun

theorem allPlain_cons {c : CodePoint} {cs : List CodePoint} :
    AllPlain (c :: cs) ↔ ((0 < c.toNat ∧ c.toNat < 0x80) ∧ c ≠ '\r') ∧ AllPlain cs :=
  List.forall_mem_cons

theorem allPlain_append {cs cs' : List CodePoint} :
    AllPlain (cs ++ cs') ↔ AllPlain cs ∧ AllPlain cs' :=
  List.forall_mem_append

theorem allPlain_replicate (count : Nat) {c : CodePoint}
    (plain : (0 < c.toNat ∧ c.toNat < 0x80) ∧ c ≠ '\r') : AllPlain (List.replicate count c) := by
  intro found mem
  rw [List.eq_of_mem_replicate mem]
  exact plain

theorem AllPlain.of_subset {cs cs' : List CodePoint} (h : AllPlain cs') (sub : cs ⊆ cs') :
    AllPlain cs :=
  fun c mem => h c (sub mem)

instance (cs : List CodePoint) : Decidable (AllPlain cs) :=
  List.decidableBAll (fun c : CodePoint => (0 < c.toNat ∧ c.toNat < 0x80) ∧ c ≠ '\r') cs

/-! ## Printed text is plain -/

theorem allDigits_plain {cs : List CodePoint} (digits : AllDigits cs) : AllPlain cs := by
  intro c mem
  have digit := (isDigit_iff c).1 (digits c mem)
  have low : 48 ≤ c.toNat := digit.1
  have high : c.toNat ≤ 57 := digit.2
  refine ⟨by omega, ?_⟩
  rintro rfl
  exact absurd low (by decide)

theorem hexChars_plain (width n : Nat) : AllPlain (hexChars width n) := by
  induction width generalizing n with
  | zero => exact allPlain_nil
  | succ width ih =>
    have digits : ∀ d < 16, AllPlain [Nat.digitChar d] := by decide
    exact allPlain_append.2 ⟨ih _, digits _ (Nat.mod_lt n (by decide))⟩

theorem unicodeEscape_plain (n : Nat) : AllPlain (unicodeEscape n) := by
  have unit : ∀ n, AllPlain (unitEscape n) := fun n =>
    allPlain_cons.2 ⟨by decide, allPlain_cons.2 ⟨by decide, hexChars_plain 4 n⟩⟩
  unfold unicodeEscape
  split
  · exact unit n
  · exact allPlain_append.2 ⟨unit _, unit _⟩

theorem escapeChar_plain (c : CodePoint) : AllPlain (escapeChar c) := by
  unfold escapeChar
  repeat' split
  · decide
  · decide
  · decide
  · decide
  · decide
  · decide
  · decide
  · rename_i other _ _ _ inside
    refine allPlain_cons.2 ⟨⟨by omega, other⟩, allPlain_nil⟩
  · exact unicodeEscape_plain c.toNat

theorem quotedChars_plain (text : Text) : AllPlain (quotedChars text) := by
  unfold quotedChars
  refine allPlain_cons.2 ⟨by decide, allPlain_append.2 ⟨?_, by decide⟩⟩
  intro found mem
  obtain ⟨c, _, mem⟩ := List.mem_flatMap.1 mem
  exact escapeChar_plain c found mem

theorem signChars_plain (negative : Bool) : AllPlain (signChars negative) := by
  cases negative <;> decide

theorem intChars_plain (n : Int) : AllPlain (intChars n) :=
  allPlain_append.2 ⟨signChars_plain _, allDigits_plain (allDigits_decimalChars _)⟩

theorem digits_plain (d : Decimal) : AllPlain d.digits.1 := by
  unfold Decimal.digits
  dsimp only
  split
  · decide
  · refine (allDigits_plain (allDigits_decimalChars d.coefficient)).of_subset ?_
    intro c mem
    have kept := (List.dropWhile_sublist _).subset (List.mem_reverse.1 mem)
    exact List.mem_reverse.1 kept

theorem positional_plain {digits : List CodePoint} (plain : AllPlain digits) (exponent : Int) :
    AllPlain (positional digits exponent) := by
  have zeros : ∀ count, AllPlain (List.replicate count (char '0')) := fun count =>
    allPlain_replicate count (by decide)
  have fraction : ∀ digits, AllPlain digits → AllPlain (fractionDigits digits) := by
    intro digits plain
    unfold fractionDigits
    split
    · decide
    · exact plain
  unfold positional
  dsimp only
  split
  · have first := plain.of_subset (List.take_subset (exponent.toNat + 1) digits)
    have rest := plain.of_subset (List.drop_subset (exponent.toNat + 1) digits)
    exact allPlain_append.2 ⟨allPlain_append.2 ⟨first, zeros _⟩,
      allPlain_cons.2 ⟨by decide, fraction _ rest⟩⟩
  · exact allPlain_cons.2 ⟨by decide, allPlain_cons.2 ⟨by decide,
      allPlain_append.2 ⟨zeros _, plain⟩⟩⟩

theorem scientific_plain {digits : List CodePoint} (plain : AllPlain digits) (exponent : Int) :
    AllPlain (scientific digits exponent) := by
  have first := plain.of_subset (List.take_subset 1 digits)
  have rest := plain.of_subset (List.drop_subset 1 digits)
  have power : AllPlain (exponentDigits exponent.natAbs) :=
    allPlain_append.2 ⟨allPlain_replicate _ (by decide), allDigits_plain (allDigits_decimalChars _)⟩
  unfold scientific
  dsimp only
  refine allPlain_append.2 ⟨allPlain_append.2 ⟨first, ?_⟩, allPlain_cons.2 ⟨by decide,
    allPlain_cons.2 ⟨?_, power⟩⟩⟩
  · split
    · exact allPlain_nil
    · exact allPlain_cons.2 ⟨by decide, rest⟩
  · split <;> decide

theorem magnitude_plain (m : Magnitude) : AllPlain m.chars := by
  unfold Magnitude.chars
  dsimp only
  repeat' split
  · decide
  · exact positional_plain (digits_plain _) _
  · exact scientific_plain (digits_plain _) _

theorem floatChars_plain (value : Binary64) : AllPlain (value.chars jsonFloatWords) := by
  cases value with
  | nan => decide
  | infinity negative => exact allPlain_append.2 ⟨signChars_plain negative, by decide⟩
  | finite negative m => exact allPlain_append.2 ⟨signChars_plain negative, magnitude_plain m⟩

theorem intercalate_plain {between : List CodePoint} {parts : List (List CodePoint)}
    (plain : AllPlain between) (all : ∀ part ∈ parts, AllPlain part) :
    AllPlain (between.intercalate parts) := by
  induction parts with
  | nil => exact allPlain_nil
  | cons first rest ih =>
    obtain ⟨here, later⟩ := List.forall_mem_cons.1 all
    cases rest with
    | nil =>
      rw [List.intercalate_singleton]
      exact here
    | cons second rest =>
      rw [List.intercalate_cons_cons]
      exact allPlain_append.2 ⟨allPlain_append.2 ⟨here, plain⟩, ih later⟩

theorem enclose_plain (layout : Layout) (depth : Nat) {left right : CodePoint}
    {parts : List (List CodePoint)} (ends : AllPlain [left, right])
    (all : ∀ part ∈ parts, AllPlain part) : AllPlain (layout.enclose depth left right parts) := by
  have newline : ∀ indent depth, AllPlain (Layout.newline indent depth) := fun _ _ =>
    allPlain_cons.2 ⟨by decide, allPlain_replicate _ (by decide)⟩
  have before : AllPlain (layout.before depth) := by
    cases layout with
    | compact => exact allPlain_nil
    | lines indent => exact newline indent _
  have between : AllPlain (layout.between depth) := by
    cases layout with
    | compact =>
      change AllPlain [',', ' ']
      decide
    | lines indent => exact allPlain_cons.2 ⟨by decide, newline indent _⟩
  have after : AllPlain (layout.after depth) := by
    cases layout with
    | compact => exact allPlain_nil
    | lines indent => exact newline indent _
  obtain ⟨left, right⟩ := allPlain_cons.1 ends
  unfold Layout.enclose
  split
  · exact ends
  · exact allPlain_append.2 ⟨allPlain_append.2 ⟨allPlain_cons.2 ⟨left,
      allPlain_append.2 ⟨before, intercalate_plain between all⟩⟩, after⟩, right⟩

namespace Json

mutual

theorem chars_plain (layout : Layout) (depth : Nat) : ∀ value : Json,
    AllPlain (value.chars layout depth)
  | null => by rw [chars]; decide
  | bool true => by rw [chars]; decide
  | bool false => by rw [chars]; decide
  | int n => by rw [chars]; exact intChars_plain n
  | float x => by rw [chars]; exact floatChars_plain x
  | str text => by rw [chars]; exact quotedChars_plain text
  | arr items => by
    rw [chars]
    exact enclose_plain layout depth (by decide) (itemChars_plain layout (depth + 1) items)
  | obj members => by
    rw [chars]
    exact enclose_plain layout depth (by decide) (memberChars_plain layout (depth + 1) members)

theorem itemChars_plain (layout : Layout) (depth : Nat) : ∀ items : List Json,
    ∀ part ∈ itemChars layout depth items, AllPlain part
  | [] => by rw [itemChars]; exact nofun
  | item :: rest => by
    rw [itemChars]
    exact List.forall_mem_cons.2 ⟨chars_plain layout depth item,
      itemChars_plain layout depth rest⟩

theorem memberChars_plain (layout : Layout) (depth : Nat) : ∀ members : Members,
    ∀ part ∈ memberChars layout depth members, AllPlain part
  | [] => by rw [memberChars]; exact nofun
  | (name, value) :: rest => by
    rw [memberChars]
    refine List.forall_mem_cons.2 ⟨?_, memberChars_plain layout depth rest⟩
    have colon : AllPlain [':', ' '] := by decide
    exact allPlain_append.2 ⟨quotedChars_plain name,
      allPlain_append.2 ⟨colon, chars_plain layout depth value⟩⟩

end

end Json

/-! ## Plain text in bytes -/

theorem toList_loop (bytes : ByteArray) (i : Nat) (acc : List UInt8) :
    ByteArray.toList.loop bytes i acc = acc.reverse ++ bytes.data.toList.drop i := by
  fun_induction ByteArray.toList.loop bytes i acc with
  | case1 i acc inside ih =>
    have inside' : i < bytes.data.toList.length := by simpa using inside
    rw [ih, List.drop_eq_getElem_cons inside']
    simp [ByteArray.get!, inside]
  | case2 i acc outside =>
    rw [List.drop_eq_nil_of_le (by simpa using Nat.le_of_not_lt outside)]
    simp

/-- The byte of a character that takes one. -/
def byteOf (c : CodePoint) : UInt8 := UInt8.ofNat c.toNat

theorem flatMap_utf8EncodeChar {cs : List Char} (plain : AllPlain (cs.map char)) :
    cs.flatMap String.utf8EncodeChar = (cs.map char).map byteOf := by
  induction cs with
  | nil => rfl
  | cons c rest ih =>
    obtain ⟨first, rest⟩ := allPlain_cons.1 plain
    have low : c.toNat < 128 := first.1.2
    have size : c.utf8Size = 1 := by
      rw [Char.utf8Size_eq_one_iff, UInt32.le_iff_toNat_le]
      exact Nat.le_of_lt_succ low
    rw [List.flatMap_cons, String.utf8EncodeChar_eq_singleton size, ih rest]
    rfl

/-- A plain text takes one byte for each character. -/
theorem encode_plain {text : Text} (plain : AllPlain text.toList) :
    Utf8.encode text = text.toList.map byteOf := by
  cases text with
  | plain string =>
    have bytes : string.toByteArray.data.toList = string.toList.flatMap String.utf8EncodeChar := by
      rw [← String.ofList_toList (s := string), String.toByteArray_ofList, String.toList_ofList]
      exact List.toList_data_toByteArray
    rw [Utf8.encode, Text.characters, String.toUTF8_eq_toByteArray, ByteArray.toList, toList_loop,
      bytes]
    exact flatMap_utf8EncodeChar plain
  | broken points surrogates =>
    -- No surrogate is that small.
    obtain ⟨c, mem, surrogate⟩ := List.any_eq_true.1 surrogates
    have low : c.toNat < 0x80 := (plain c mem).1.2
    cases c with
    | char c => cases surrogate
    | surrogate place =>
      rw [CodePoint.toNat, CodePoint.firstSurrogate] at low
      omega

theorem step_plain {c : CodePoint} (low : c.toNat < 0x80) (surrogates : Bool) (rest : List UInt8) :
    Utf8.step surrogates (byteOf c).toNat rest = .char c 1 := by
  have same : (byteOf c).toNat = c.toNat := by
    change c.toNat % 256 = c.toNat
    omega
  have alone : Utf8.tailLength c.toNat = 0 := if_pos low
  have bits : Utf8.firstBits c.toNat = c.toNat := if_pos low
  rw [same, Utf8.step, alone, if_neg (by omega)]
  simp [Utf8.tailBytes, Utf8.codePoint, bits]

theorem decodeFrom_plain {cs : List CodePoint} (plain : AllPlain cs) (surrogates : Bool)
    (fuel position : Nat) (acc : List CodePoint) (enough : cs.length ≤ fuel) :
    Utf8.decodeFrom surrogates fuel position acc (cs.map byteOf) = .ok (acc.reverse ++ cs) := by
  induction cs generalizing fuel position acc with
  | nil => cases fuel <;> simp [Utf8.decodeFrom]
  | cons c rest ih =>
    obtain ⟨first, rest⟩ := allPlain_cons.1 plain
    cases fuel with
    | zero => cases enough
    | succ fuel =>
      rw [List.map_cons, Utf8.decodeFrom, step_plain first.1.2]
      dsimp only
      rw [Nat.sub_self, List.drop_zero, ih rest _ _ _ (Nat.le_of_succ_le_succ enough)]
      simp

theorem decode_encode {text : Text} (plain : AllPlain text.toList) (surrogates : Bool) :
    Utf8.decode surrogates (Utf8.encode text) = .ok text.toList := by
  rw [encode_plain plain, Utf8.decode, List.length_map]
  exact decodeFrom_plain plain surrogates _ 0 [] (Nat.le_refl _)

theorem unifyLines_plain {cs : List CodePoint} (plain : AllPlain cs) (acc : List CodePoint) :
    unifyLines acc cs = acc.reverse ++ cs := by
  induction cs generalizing acc with
  | nil => simp [unifyLines]
  | cons c rest ih =>
    obtain ⟨first, rest⟩ := allPlain_cons.1 plain
    rw [unifyLines.eq_4 _ _ _ (by rintro _ rfl; exact absurd rfl first.2) first.2, ih rest]
    simp

/-- Plain text is read from its bytes as it was. -/
theorem decodeLines_encode {text : Text} (plain : AllPlain text.toList) :
    decodeLines (Utf8.encode text) = .ok text := by
  rw [decodeLines, decode_encode plain]
  change Except.ok (Text.ofList (unifyLines [] text.toList)) = _
  rw [unifyLines_plain plain, List.reverse_nil, List.nil_append, Text.ofList_toList]

theorem Json.print_plain (layout : Layout) (value : Json) :
    AllPlain (value.print layout).toList := by
  rw [Json.print, Text.toList_ofList]
  exact Json.chars_plain layout 0 value

/-- A printed value that ends its line is read from a file as it was printed. -/
theorem decodeLines_print (layout : Layout) (value : Json) :
    decodeLines (Utf8.encode (value.print layout ++ "\n")) = .ok (value.print layout ++ "\n") := by
  refine decodeLines_encode ?_
  rw [Text.toList_append]
  exact allPlain_append.2 ⟨Json.print_plain layout value, by decide⟩

end RequestSchema
