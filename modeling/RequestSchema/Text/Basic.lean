import RequestSchema.Text.CodePoint

set_option autoImplicit false

/-!
# Texts

A text is a sequence of code points. One without surrogates is kept as a string; only a text that
holds a surrogate is kept point by point, so that no text is kept in two ways.
-/

namespace RequestSchema

inductive Text where
  | plain (string : String)
  | broken (points : List CodePoint) (broken : points.any CodePoint.isSurrogate)
deriving DecidableEq

instance : Coe String Text := ⟨.plain⟩

instance : Inhabited Text := ⟨""⟩

namespace Text

def toList : Text → List CodePoint
  | plain string => string.toList.map .char
  | broken points _ => points

def ofList (points : List CodePoint) : Text :=
  if h : points.any CodePoint.isSurrogate then broken points h
  else plain (String.ofList (points.filterMap CodePoint.char?))

protected def append : Text → Text → Text
  | plain front, plain back => plain (front ++ back)
  | front, back => ofList (front.toList ++ back.toList)

instance : Append Text := ⟨Text.append⟩

def length : Text → Nat
  | plain string => string.length
  | broken points _ => points.length

def isEmpty : Text → Bool
  | plain string => string.isEmpty
  | broken _ _ => false

def hasSurrogates : Text → Bool
  | plain _ => false
  | broken _ _ => true

/-- The text without its surrogates. -/
def characters : Text → String
  | plain string => string
  | broken points _ => String.ofList (points.filterMap CodePoint.char?)

def map (f : CodePoint → CodePoint) (text : Text) : Text := ofList (text.toList.map f)

def singleton (c : CodePoint) : Text := ofList [c]

def join (texts : List Text) : Text := texts.foldl (· ++ ·) ""

def intercalate (separator : Text) : List Text → Text
  | [] => ""
  | text :: rest => rest.foldl (fun front back => front ++ separator ++ back) text

instance : LT Text := ⟨fun a b => a.toList < b.toList⟩

instance : LE Text := ⟨fun a b => a.toList ≤ b.toList⟩

instance (a b : Text) : Decidable (a < b) := inferInstanceAs (Decidable (a.toList < b.toList))

instance (a b : Text) : Decidable (a ≤ b) := inferInstanceAs (Decidable (a.toList ≤ b.toList))

@[simp] theorem toList_plain (string : String) :
    (plain string).toList = string.toList.map char := rfl

theorem map_char_characters {points : List CodePoint}
    (whole : ¬points.any CodePoint.isSurrogate) :
    (points.filterMap CodePoint.char?).map char = points := by
  induction points with
  | nil => rfl
  | cons c rest ih =>
    simp only [List.any_cons, Bool.or_eq_true, not_or] at whole
    cases c with
    | char c => simp [CodePoint.char?, ih whole.2]
    | surrogate place => exact absurd rfl whole.1

@[simp] theorem toList_ofList (points : List CodePoint) : (ofList points).toList = points := by
  unfold ofList
  split
  · rfl
  · rename_i whole
    rw [toList_plain, String.toList_ofList, map_char_characters whole]

theorem any_isSurrogate_map (cs : List Char) : (cs.map char).any CodePoint.isSurrogate = false := by
  simp [CodePoint.isSurrogate, CodePoint.char?]

@[simp] theorem ofList_toList (text : Text) : ofList text.toList = text := by
  cases text with
  | plain string =>
    have whole : ¬(string.toList.map char).any CodePoint.isSurrogate := by
      rw [any_isSurrogate_map]
      exact Bool.false_ne_true
    have same : (string.toList.map char).filterMap CodePoint.char? = string.toList := by
      simp [List.filterMap_map, CodePoint.char?, Function.comp_def]
    rw [toList_plain, ofList, dif_neg whole, same, String.ofList_toList]
  | broken points h => rw [toList, ofList, dif_pos h]

theorem ext {a b : Text} (same : a.toList = b.toList) : a = b := by
  rw [← ofList_toList a, same, ofList_toList]

theorem toList_inj {a b : Text} : a.toList = b.toList ↔ a = b := ⟨ext, congrArg toList⟩

@[simp] theorem toList_append (a b : Text) : (a ++ b).toList = a.toList ++ b.toList := by
  cases a with
  | plain front =>
    cases b with
    | plain back =>
      change (front ++ back).toList.map char = _
      rw [String.toList_append, List.map_append, toList_plain, toList_plain]
    | broken points h => exact toList_ofList _
  | broken points h => exact toList_ofList _

@[simp] theorem plain_append (front back : String) :
    plain front ++ plain back = plain (front ++ back) := rfl

theorem toList_empty : (plain "").toList = [] := rfl

theorem append_assoc (a b c : Text) : a ++ b ++ c = a ++ (b ++ c) := by
  apply ext
  simp only [toList_append, List.append_assoc]

@[simp] theorem append_empty (a : Text) : a ++ plain "" = a := by
  apply ext
  rw [toList_append, toList_empty, List.append_nil]

@[simp] theorem empty_append (a : Text) : plain "" ++ a = a := by
  apply ext
  rw [toList_append, toList_empty, List.nil_append]

theorem append_right_inj (a : Text) {b c : Text} : a ++ b = a ++ c ↔ b = c := by
  rw [← toList_inj, ← toList_inj, toList_append, toList_append, List.append_cancel_left_eq]

theorem append_left_inj {a b : Text} (c : Text) : a ++ c = b ++ c ↔ a = b := by
  rw [← toList_inj, ← toList_inj, toList_append, toList_append, List.append_cancel_right_eq]

@[simp] theorem length_toList (text : Text) : text.toList.length = text.length := by
  cases text with
  | plain string => rw [toList_plain, List.length_map, String.length_toList, length]
  | broken points h => rfl

@[simp] theorem length_append (a b : Text) : (a ++ b).length = a.length + b.length := by
  simp only [← length_toList, toList_append, List.length_append]

theorem isEmpty_iff {text : Text} : text.isEmpty = true ↔ text = plain "" := by
  cases text with
  | plain string => rw [isEmpty, String.isEmpty_iff, plain.injEq]
  | broken points h => simp [isEmpty]

@[simp] theorem isEmpty_eq_false_iff {text : Text} : text.isEmpty = false ↔ text ≠ plain "" := by
  rw [← Bool.not_eq_true, isEmpty_iff]

@[simp] theorem toList_eq_nil_iff {text : Text} : text.toList = [] ↔ text = plain "" :=
  toList_inj (b := "")

@[simp] theorem append_eq_empty_iff {a b : Text} :
    a ++ b = plain "" ↔ a = plain "" ∧ b = plain "" := by
  simp only [← toList_eq_nil_iff, toList_append, List.append_eq_nil_iff]

theorem le_trans {a b c : Text} (front : a ≤ b) (back : b ≤ c) : a ≤ c := List.le_trans front back

theorem le_total (a b : Text) : a ≤ b ∨ b ≤ a := List.le_total a.toList b.toList

instance : Std.IsLinearOrder Text := .of_le
  { antisymm := fun _ _ front back => ext (List.le_antisymm front back) }
  { trans := le_trans }
  { total := le_total }

instance : Std.LawfulOrderLT Text where
  lt_iff a b := Std.LawfulOrderLT.lt_iff a.toList b.toList

end Text

end RequestSchema
