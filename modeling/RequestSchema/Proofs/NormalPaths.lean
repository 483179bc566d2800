import Mathlib.Data.List.SplitBy
import RequestSchema.Settings.HomeFolder

set_option autoImplicit false

/-!
# Normal paths

A path that is written the normal way has its pieces at single slashes behind its root. Writing it
the normal way again changes nothing.
-/

namespace RequestSchema

/-- Neighbours in one piece: neither of them is a slash. -/
def joined (a b : CodePoint) : Bool := a != '/' && b != '/'

def saysSomething (piece : List CodePoint) : Bool := piece != [char '/'] && piece != [char '.']

theorem pathPieces_eq (cs : List CodePoint) :
    pathPieces cs = (cs.splitBy joined).filter saysSomething := rfl

/-- A piece between slashes that says something. -/
structure IsPiece (piece : List CodePoint) : Prop where
  filled : piece ≠ []
  noSlash : char '/' ∉ piece
  noDot : piece ≠ [char '.']

theorem isChain_joined {piece : List CodePoint} (noSlash : char '/' ∉ piece) :
    piece.IsChain fun a b => joined a b = true := by
  induction piece with
  | nil => exact .nil
  | cons a rest ih =>
    obtain ⟨first, later⟩ := not_or.1 (mt List.mem_cons.2 noSlash)
    cases rest with
    | nil => exact .singleton a
    | cons b rest =>
      obtain ⟨second, _⟩ := not_or.1 (mt List.mem_cons.2 later)
      refine .cons_cons ?_ (ih later)
      simp [joined, Ne.symm first, Ne.symm second]

/-- A slash in a piece stands alone. -/
theorem eq_slash {piece : List CodePoint} (chain : piece.IsChain fun a b => joined a b = true)
    (slash : char '/' ∈ piece) : piece = [char '/'] := by
  induction piece with
  | nil => cases slash
  | cons a rest ih =>
    cases rest with
    | nil => rw [List.mem_singleton.1 slash]
    | cons b rest =>
      rw [List.isChain_cons_cons] at chain
      obtain ⟨apart, chain⟩ := chain
      simp only [joined, Bool.and_eq_true, bne_iff_ne, ne_eq] at apart
      rcases List.mem_cons.1 slash with same | slash
      · exact absurd same.symm apart.1
      · have single := ih chain slash
        exact absurd (List.cons.inj single).1 apart.2

theorem isPiece_of_mem {cs piece : List CodePoint} (mem : piece ∈ pathPieces cs) :
    IsPiece piece := by
  rw [pathPieces_eq] at mem
  obtain ⟨split, kept⟩ := List.mem_filter.1 mem
  simp only [saysSomething, Bool.and_eq_true, bne_iff_ne, ne_eq] at kept
  have filled : piece ≠ [] := fun empty => List.nil_notMem_splitBy _ cs (empty ▸ split)
  have chain := List.isChain_of_mem_splitBy split
  exact ⟨filled, fun slash => kept.1 (eq_slash chain slash), kept.2⟩

theorem pathRoot_cases (cs : List CodePoint) :
    pathRoot cs = [] ∨ pathRoot cs = [char '/'] ∨ pathRoot cs = [char '/', char '/'] := by
  have slashes : ∀ c ∈ cs.takeWhile (· == char '/'), c = char '/' := fun c mem => by
    simpa using List.all_eq_true.1 List.all_takeWhile c mem
  unfold pathRoot
  dsimp only
  match found : cs.takeWhile (· == char '/') with
  | [] => exact .inl rfl
  | [a] =>
    rw [found] at slashes
    rw [slashes a List.mem_cons_self]
    exact .inr (.inl rfl)
  | [a, b] =>
    rw [found] at slashes
    rw [slashes a List.mem_cons_self, slashes b (List.mem_cons_of_mem a List.mem_cons_self)]
    exact .inr (.inr rfl)
  | a :: b :: c :: rest =>
    rw [found] at slashes
    rw [slashes a List.mem_cons_self]
    exact .inr (.inl rfl)

/-- The characters of pieces at single slashes. -/
def joinedPieces (pieces : List (List CodePoint)) : List CodePoint :=
  List.intercalate [char '/'] pieces

theorem joinedPieces_start {pieces : List (List CodePoint)}
    (all : ∀ piece ∈ pieces, IsPiece piece) :
    (joinedPieces pieces).takeWhile (· == char '/') = [] := by
  cases pieces with
  | nil => rfl
  | cons first rest =>
    obtain ⟨filled, noSlash, _⟩ := all first List.mem_cons_self
    obtain ⟨c, cs, rfl⟩ := List.exists_cons_of_ne_nil filled
    have other : (c == '/') = false := by
      rw [beq_eq_false_iff_ne]
      rintro rfl
      exact noSlash List.mem_cons_self
    have start : ∃ more, joinedPieces ((c :: cs) :: rest) = c :: more := by
      unfold joinedPieces List.intercalate
      cases rest with
      | nil => exact ⟨_, rfl⟩
      | cons second rest => exact ⟨_, rfl⟩
    obtain ⟨more, same⟩ := start
    rw [same, List.takeWhile_cons, other]
    rfl

theorem pathRoot_again {root : List CodePoint} {pieces : List (List CodePoint)}
    (known : root = [] ∨ root = [char '/'] ∨ root = [char '/', char '/'])
    (all : ∀ piece ∈ pieces, IsPiece piece) : pathRoot (root ++ joinedPieces pieces) = root := by
  have start := joinedPieces_start all
  have slashes : (root ++ joinedPieces pieces).takeWhile (· == char '/') = root := by
    rw [List.takeWhile_append_of_pos, start, List.append_nil]
    obtain rfl | rfl | rfl := known <;> simp
  unfold pathRoot
  rw [slashes]
  obtain rfl | rfl | rfl := known <;> rfl

theorem mem_intersperse {α : Type} {between item : α} {items : List α}
    (mem : item ∈ items.intersperse between) : item = between ∨ item ∈ items := by
  induction items with
  | nil => cases mem
  | cons first rest ih =>
    cases rest with
    | nil => exact .inr mem
    | cons second rest =>
      rw [List.intersperse_cons_cons] at mem
      rcases List.mem_cons.1 mem with rfl | mem
      · exact .inr List.mem_cons_self
      · rcases List.mem_cons.1 mem with rfl | mem
        · exact .inl rfl
        · exact (ih mem).imp_right (List.mem_cons_of_mem first)

/-- Parts of a path that a split at slashes leaves as they are. -/
def Apart (a b : List CodePoint) : Prop :=
  ∃ (ha : a ≠ []) (hb : b ≠ []), joined (a.getLast ha) (b.head hb) = false

theorem apart_slash {piece : List CodePoint} (filled : piece ≠ []) : Apart piece ['/'] :=
  ⟨filled, List.cons_ne_nil _ _, by simp [joined]⟩

theorem slash_apart {piece : List CodePoint} (filled : piece ≠ []) : Apart ['/'] piece :=
  ⟨List.cons_ne_nil _ _, filled, by simp [joined]⟩

theorem isChain_intersperse {pieces : List (List CodePoint)}
    (all : ∀ piece ∈ pieces, IsPiece piece) : (pieces.intersperse [char '/']).IsChain Apart := by
  induction pieces with
  | nil => exact .nil
  | cons first rest ih =>
    obtain ⟨here, later⟩ := List.forall_mem_cons.1 all
    cases rest with
    | nil => exact .singleton first
    | cons second rest =>
      have chain := ih later
      rw [List.intersperse_cons_cons]
      refine .cons_cons (apart_slash here.filled) ?_
      have next := (later second List.mem_cons_self).filled
      cases rest with
      | nil => exact .cons_cons (slash_apart next) chain
      | cons third rest => exact .cons_cons (slash_apart next) chain

theorem mem_parts {root : List CodePoint} (slashes : ∀ c ∈ root, c = '/')
    (pieces : List (List CodePoint)) :
    ∀ part ∈ root.map (fun c => [c]) ++ pieces.intersperse [char '/'],
      part = [char '/'] ∨ part ∈ pieces := by
  intro part mem
  rcases List.mem_append.1 mem with mem | mem
  · obtain ⟨c, found, rfl⟩ := List.mem_map.1 mem
    rw [slashes c found]
    exact .inl rfl
  · exact mem_intersperse mem

theorem isChain_parts {root : List CodePoint} {pieces : List (List CodePoint)}
    (slashes : ∀ c ∈ root, c = '/') (all : ∀ piece ∈ pieces, IsPiece piece) :
    (root.map (fun c => [c]) ++ pieces.intersperse [char '/']).IsChain Apart := by
  have filled := all
  induction root with
  | nil => exact isChain_intersperse all
  | cons c rest ih =>
    obtain ⟨rfl, later⟩ := List.forall_mem_cons.1 slashes
    have parts := mem_parts later pieces
    have chain := ih later
    rw [List.map_cons, List.cons_append]
    generalize rest.map (fun c => [c]) ++ pieces.intersperse [char '/'] = all at parts chain
    cases all with
    | nil => exact .singleton _
    | cons part more =>
      refine .cons_cons (slash_apart ?_) chain
      obtain rfl | mem := parts part List.mem_cons_self
      · exact List.cons_ne_nil _ _
      · exact (filled part mem).filled

theorem splitBy_pieces {root : List CodePoint} {pieces : List (List CodePoint)}
    (slashes : ∀ c ∈ root, c = '/') (all : ∀ piece ∈ pieces, IsPiece piece) :
    (root ++ joinedPieces pieces).splitBy joined =
      root.map (fun c => [c]) ++ pieces.intersperse [char '/'] := by
  have parts := mem_parts slashes pieces
  have whole : (root.map (fun c => [c]) ++ pieces.intersperse [char '/']).flatten =
      root ++ joinedPieces pieces := by
    have singles : ∀ cs : List CodePoint, (cs.map fun c => [c]).flatten = cs := by
      intro cs
      induction cs with
      | nil => rfl
      | cons c rest ih => rw [List.map_cons, List.flatten_cons, ih, List.singleton_append]
    rw [List.flatten_append, singles, joinedPieces, List.intercalate]
  -- Parts that are whole in themselves and apart from each other are what a split gives back.
  rw [← whole]
  refine List.splitBy_flatten ?_ ?_ (isChain_parts slashes all)
  · intro mem
    obtain same | mem := parts [] mem
    · exact List.cons_ne_nil _ _ same.symm
    · exact (all [] mem).filled rfl
  · intro part mem
    obtain rfl | mem := parts part mem
    · exact .singleton _
    · exact isChain_joined (all part mem).noSlash

theorem filter_intersperse {pieces : List (List CodePoint)}
    (all : ∀ piece ∈ pieces, IsPiece piece) :
    (pieces.intersperse [char '/']).filter saysSomething = pieces := by
  have kept : ∀ piece, IsPiece piece → saysSomething piece = true := by
    intro piece h
    have other : piece ≠ [char '/'] := by
      rintro rfl
      exact h.noSlash List.mem_cons_self
    simp [saysSomething, other, h.noDot]
  induction pieces with
  | nil => rfl
  | cons first rest ih =>
    obtain ⟨here, later⟩ := List.forall_mem_cons.1 all
    have first_kept := kept first here
    cases rest with
    | nil =>
      rw [List.intersperse_singleton, List.filter_cons_of_pos first_kept]
      rfl
    | cons second rest =>
      rw [List.intersperse_cons_cons, List.filter_cons_of_pos first_kept,
        List.filter_cons_of_neg (by decide), ih later]

theorem pathPieces_again {root : List CodePoint} {pieces : List (List CodePoint)}
    (slashes : ∀ c ∈ root, c = '/') (all : ∀ piece ∈ pieces, IsPiece piece) :
    pathPieces (root ++ joinedPieces pieces) = pieces := by
  have dropped : (root.map fun c => [c]).filter saysSomething = [] := by
    rw [List.filter_eq_nil_iff]
    intro part mem
    obtain ⟨c, found, rfl⟩ := List.mem_map.1 mem
    rw [slashes c found]
    decide
  rw [pathPieces_eq, splitBy_pieces slashes all, List.filter_append, dropped,
    filter_intersperse all, List.nil_append]

/-- A path that is written the normal way stays as it is. -/
theorem normalPath_normalPath (path : Text) : normalPath (normalPath path) = normalPath path := by
  have pieces : ∀ piece ∈ pathPieces path.toList, IsPiece piece := fun _ mem => isPiece_of_mem mem
  have known := pathRoot_cases path.toList
  have slashes : ∀ c ∈ pathRoot path.toList, c = '/' := by
    obtain same | same | same := known <;> rw [same] <;> simp
  have root := pathRoot_again known pieces
  have again := pathPieces_again slashes pieces
  unfold joinedPieces at root again
  unfold normalPath
  dsimp only
  split
  · rfl
  · rename_i filled
    rw [Text.toList_ofList, root, again, if_neg filled]

end RequestSchema
