import RequestSchema.Json.ReadError
import RequestSchema.Proofs.JsonParts
import RequestSchema.Proofs.PrintedStrings

set_option autoImplicit false

/-!
# Values as a text keeps them

A text may give a member of an object twice, and what is read has it once: in its first place, with
its last value. The halves of a character become one. Numbers of too many digits and values that
nest too deep are not read at all.
-/

namespace RequestSchema.Json

/-- Members set one after the other. -/
def setMembers (held given : Members) : Members :=
  given.foldl (fun held member => setKey member.1 member.2 held) held

mutual

/-- The value in which members of one name are merged and texts are joined, at every depth. -/
def merged : Json → Json
  | str text => .str text.joined
  | arr items => .arr (mergedItems items)
  | obj members => .obj (setMembers [] (mergedMembers members))
  | value => value

def mergedItems : List Json → List Json
  | [] => []
  | item :: rest => item.merged :: mergedItems rest

def mergedMembers : Members → Members
  | [] => []
  | (name, value) :: rest => (name.joined, value.merged) :: mergedMembers rest

end

mutual

/-- No whole number inside the value has more digits than are read. -/
def Short : Json → Prop
  | int value => (decimalChars value.natAbs).length ≤ maxIntegerDigits
  | arr items => ItemsShort items
  | obj members => MembersShort members
  | _ => True

def ItemsShort : List Json → Prop
  | [] => True
  | item :: rest => item.Short ∧ ItemsShort rest

def MembersShort : Members → Prop
  | [] => True
  | (_, value) :: rest => value.Short ∧ MembersShort rest

end

theorem itemsShort_iff (items : List Json) : ItemsShort items ↔ ∀ item ∈ items, item.Short := by
  induction items with
  | nil => exact iff_of_true trivial nofun
  | cons item rest ih => rw [List.forall_mem_cons, ItemsShort, ih]

theorem membersShort_iff (members : Members) :
    MembersShort members ↔ ∀ member ∈ members, member.2.Short := by
  induction members with
  | nil => exact iff_of_true trivial nofun
  | cons member rest ih => rw [List.forall_mem_cons, MembersShort, ih]

mutual

/-- No text inside the value has two halves of a character side by side. -/
def Joined : Json → Prop
  | str text => text.joined = text
  | arr items => ItemsJoined items
  | obj members => MembersJoined members
  | _ => True

def ItemsJoined : List Json → Prop
  | [] => True
  | item :: rest => item.Joined ∧ ItemsJoined rest

def MembersJoined : Members → Prop
  | [] => True
  | (name, value) :: rest => name.joined = name ∧ value.Joined ∧ MembersJoined rest

end

theorem setKey_fresh {name : Text} {held : Members} (fresh : name ∉ keys held) (value : Json) :
    setKey name value held = held ++ [(name, value)] := by
  induction held with
  | nil => rfl
  | cons member rest ih =>
    obtain ⟨different, fresh⟩ := not_or.1 (mt List.mem_cons.2 fresh)
    rw [setKey, if_neg (Ne.symm different), ih fresh]
    rfl

/-- Members of names that are all different stay as they are. -/
theorem setMembers_distinct {held given : Members} (distinct : (keys (held ++ given)).Nodup) :
    setMembers held given = held ++ given := by
  induction given generalizing held with
  | nil => exact (List.append_nil held).symm
  | cons member rest ih =>
    have fresh : member.1 ∉ keys held := by
      intro mem
      rw [keys, List.map_append, List.nodup_append] at distinct
      exact distinct.2.2 _ mem _ List.mem_cons_self rfl
    change setMembers (setKey member.1 member.2 held) rest = _
    rw [setKey_fresh fresh, ih, List.append_assoc]
    · rfl
    · rwa [List.append_assoc]

mutual

/-- A value without two members of one name, and with joined texts, is left as it is. -/
theorem merged_eq : ∀ value : Json, value.WellFormed → value.Joined → value.merged = value
  | null, _, _ | bool _, _, _ | int _, _, _ | float _, _, _ => by simp only [merged]
  | str text, _, joined => by rw [merged, joined]
  | arr items, h, joined => by rw [merged, mergedItems_eq items h joined]
  | obj members, h, joined => by
    obtain ⟨distinct, inner⟩ := h
    have same : setMembers [] members = members :=
      setMembers_distinct (show (keys ([] ++ members)).Nodup from distinct)
    rw [merged, mergedMembers_eq members inner joined, same]

theorem mergedItems_eq : ∀ items : List Json, ItemsWellFormed items → ItemsJoined items →
    mergedItems items = items
  | [], _, _ => by rw [mergedItems]
  | item :: rest, h, joined => by
    rw [mergedItems, merged_eq item h.1 joined.1, mergedItems_eq rest h.2 joined.2]

theorem mergedMembers_eq : ∀ members : Members, MembersWellFormed members →
    MembersJoined members → mergedMembers members = members
  | [], _, _ => by rw [mergedMembers]
  | (name, value) :: rest, h, joined => by
    rw [mergedMembers, joined.1, merged_eq value h.1 joined.2.1,
      mergedMembers_eq rest h.2 joined.2.2]

end

end RequestSchema.Json
