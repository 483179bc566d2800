import Mathlib.Data.List.Basic
import Mathlib.Data.List.Induction
import Mathlib.Data.List.Pairwise
import RequestSchema.Conversion.Report

set_option autoImplicit false

/-!
# Strict mode

A strict conversion is a lenient one that is refused afterwards if types are unresolved, with the
warnings about them and their names in order. Everything else is the same in both.
-/

namespace RequestSchema

/-- What is left without repetitions comes in the order in which it comes first. -/
theorem eraseDups_inOrder {α : Type} [DecidableEq α] (items : List α) :
    items.eraseDups.Pairwise fun a b => items.idxOf a < items.idxOf b := by
  induction items using List.reverseRecOn with
  | nil => exact List.Pairwise.nil
  | append_singleton items last ih =>
    -- The last item is kept exactly if it did not come before, and it comes after all others then.
    have earlier : items.eraseDups.Pairwise fun a b =>
        (items ++ [last]).idxOf a < (items ++ [last]).idxOf b := by
      refine ih.imp_of_mem fun {a b} ha hb lt => ?_
      rw [List.mem_eraseDups] at ha hb
      rwa [List.idxOf_append_of_mem ha, List.idxOf_append_of_mem hb]
    rw [List.eraseDups_append]
    by_cases seen : last ∈ items
    · have nothing : [last].removeAll items = [] := by simp [List.removeAll, seen]
      rw [nothing, List.eraseDups_nil, List.append_nil]
      exact earlier
    · have one : ([last].removeAll items).eraseDups = [last] := by
        simp [List.removeAll, seen, List.eraseDups_cons]
      rw [one]
      refine List.pairwise_append.2 ⟨earlier, List.pairwise_singleton _ _, ?_⟩
      intro a ha b hb
      rw [List.mem_eraseDups] at ha
      rw [List.mem_singleton.1 hb, List.idxOf_append_of_mem ha, List.idxOf_append_of_notMem seen]
      have := List.idxOf_lt_length_of_mem ha
      omega

theorem nodup_eraseDups {α : Type} [DecidableEq α] (items : List α) : items.eraseDups.Nodup := by
  refine (eraseDups_inOrder items).imp fun {a b} lt same => ?_
  rw [same] at lt
  exact Nat.lt_irrefl _ lt

theorem mem_sortedDistinct (texts : List Text) (text : Text) :
    text ∈ sortedDistinct texts ↔ text ∈ texts := by
  unfold sortedDistinct
  rw [List.mem_mergeSort, List.mem_eraseDups]

theorem sortedDistinct_pairwise (texts : List Text) :
    (sortedDistinct texts).Pairwise (· < ·) := by
  have sorted : (sortedDistinct texts).Pairwise (· ≤ ·) := by
    refine (List.pairwise_mergeSort ?_ ?_ texts.eraseDups).imp fun {a b} le => of_decide_eq_true le
    · intro a b c hab hbc
      exact decide_eq_true (Text.le_trans (of_decide_eq_true hab) (of_decide_eq_true hbc))
    · intro a b
      rcases Text.le_total a b with le | le <;> simp [le]
  have distinct : (sortedDistinct texts).Nodup :=
    (List.mergeSort_perm texts.eraseDups _).nodup_iff.2 (nodup_eraseDups texts)
  exact sorted.imp₂ (fun a b le ne => Std.lt_of_le_of_ne le ne) distinct

/-- The warnings about types, without those about operations. -/
def typeWarnings (warnings : List Warning) : List Warning :=
  warnings.filter fun w => w.kind = .unresolvedType

theorem filter_isUnresolved (warnings : List Warning) :
    warnings.filter Warning.isUnresolved = typeWarnings warnings := rfl

/-- Each subject of a warning about a type, once, in the order in which they come first. -/
structure ListsUnresolved (warnings : List Warning) (names : List Text) : Prop where
  mem_iff : ∀ name, name ∈ names ↔ ∃ w ∈ warnings, w.kind = .unresolvedType ∧ w.subject = name
  once : names.Nodup
  inOrder : names.Pairwise fun a b =>
    ((typeWarnings warnings).map Warning.subject).idxOf a <
      ((typeWarnings warnings).map Warning.subject).idxOf b

theorem unresolvedNames_lists (warnings : List Warning) :
    ListsUnresolved warnings (unresolvedNames warnings) := by
  refine ⟨fun name => ?_, nodup_eraseDups _, eraseDups_inOrder _⟩
  unfold unresolvedNames
  rw [List.mem_eraseDups, filter_isUnresolved]
  simp [typeWarnings, and_assoc]

/-- The message names what is unresolved, each once and sorted by code points. -/
theorem unresolvedMessage_names (warnings : List Warning) : ∃ names : List Text,
    unresolvedMessage (typeWarnings warnings) =
        "unresolved types: " ++ Text.intercalate ", " names ∧
      names.Pairwise (· < ·) ∧ ∀ name, name ∈ names ↔ name ∈ unresolvedNames warnings := by
  refine ⟨_, rfl, sortedDistinct_pairwise _, fun name => ?_⟩
  rw [mem_sortedDistinct, unresolvedNames, List.mem_eraseDups, filter_isUnresolved]

/-- How a strict conversion refuses what a lenient one reports. -/
structure Refuses (report : Report) (outcome : Except Fault Report) : Prop where
  outcome_eq : outcome = .error (.unresolvedTypes (typeWarnings report.warnings))
  message : ∃ names : List Text,
    unresolvedMessage (typeWarnings report.warnings) =
        "unresolved types: " ++ Text.intercalate ", " names ∧
      names.Pairwise (· < ·) ∧ ∀ name, name ∈ names ↔ name ∈ report.unresolved

/-- The outcome of a strict conversion, told by that of a lenient one. -/
structure StrictFollowsLenient (description : Json) : Prop where
  fails : ∀ fault, (convert description false).1 = .error fault →
    (convert description true).1 = .error fault
  passes : ∀ report, (convert description false).1 = .ok report →
    (∀ w ∈ report.warnings, w.kind ≠ .unresolvedType) →
      (convert description true).1 = .ok report
  refuses : ∀ report, (convert description false).1 = .ok report →
    (∃ w ∈ report.warnings, w.kind = .unresolvedType) →
      Refuses report (convert description true).1
  lists : ∀ report, (convert description false).1 = .ok report →
    ListsUnresolved report.warnings report.unresolved

theorem any_isUnresolved (warnings : List Warning) :
    warnings.any Warning.isUnresolved = true ↔ ∃ w ∈ warnings, w.kind = .unresolvedType := by
  simp [Warning.isUnresolved]

/-- Both modes assemble the same schema with the same warnings, and only conclude differently. -/
theorem convert_modes (description : Json) :
    (∃ fault, ∀ strict, (convert description strict).1 = .error fault) ∨
      ∃ schema warnings, ∀ strict, (convert description strict).1 =
        conclude strict schema warnings := by
  unfold convert
  split
  · split
    · exact .inr ⟨_, _, fun _ => rfl⟩
    · exact .inl ⟨_, fun _ => rfl⟩
  · exact .inl ⟨_, fun _ => rfl⟩

/-- A conversion in either mode is a lenient one, which in strict mode may report no type. -/
theorem convert_ok_iff (description : Json) (strict : Bool) (report : Report) :
    (convert description strict).1 = .ok report ↔ (convert description false).1 = .ok report ∧
      (strict = true → report.warnings.any Warning.isUnresolved = false) := by
  rcases convert_modes description with ⟨fault, failed⟩ | ⟨schema, warnings, concluded⟩
  · rw [failed, failed]
    simp
  · rw [concluded, concluded, conclude, conclude, Bool.false_and, if_neg Bool.false_ne_true]
    cases strict with
    | false => simp
    | true =>
      rw [Bool.true_and]
      split
      · rename_i someType
        refine iff_of_false nofun ?_
        rintro ⟨same, noType⟩
        obtain rfl := Except.ok.inj same
        exact Bool.false_ne_true ((noType rfl).symm.trans someType)
      · rename_i noType
        refine (and_iff_left_of_imp ?_).symm
        intro same _
        obtain rfl := Except.ok.inj same
        exact Bool.eq_false_iff.2 noType

theorem strict_follows_lenient (description : Json) : StrictFollowsLenient description := by
  rcases convert_modes description with ⟨fault, failed⟩ | ⟨schema, warnings, concluded⟩
  · refine ⟨fun other lenient => ?_, ?_, ?_, ?_⟩
    · rw [failed, ← lenient, failed]
    all_goals
      intro report lenient
      rw [failed] at lenient
      cases lenient
  · have lenient : (convert description false).1 = .ok ⟨schema, warnings⟩ := concluded false
    refine ⟨fun fault failed => ?_, ?_, ?_, ?_⟩
    · rw [lenient] at failed
      cases failed
    all_goals
      intro report done
      obtain rfl := Except.ok.inj (lenient.symm.trans done)
    · intro noType
      have none : ¬warnings.any Warning.isUnresolved = true := by
        rw [any_isUnresolved]
        rintro ⟨w, mem, kind⟩
        exact noType w mem kind
      rw [concluded, conclude, Bool.true_and, if_neg none]
    · intro someType
      refine ⟨?_, unresolvedMessage_names warnings⟩
      rw [concluded, conclude, Bool.true_and, if_pos ((any_isUnresolved warnings).2 someType)]
      rfl
    · exact unresolvedNames_lists warnings

end RequestSchema
