import Mathlib.Data.List.Forall2
import RequestSchema.Recording

set_option autoImplicit false

/-!
# Computations that take notes

A recording computation takes notes when its outcome and what it adds to the record are the same for
every record. Such computations are put together by a few rules, one for each way of building them:
for what holds of every result, for when there is a result at all, and for two computations of which
one does what the other does.
-/

namespace RequestSchema.Recording

variable {σ ε α β ν : Type} {record : ν → σ → σ}

/-- The record after some notes were taken, one by one. -/
def noted (record : ν → σ → σ) (notes : List ν) (s : σ) : σ :=
  notes.foldl (fun t note => record note t) s

theorem noted_append (ns ms : List ν) (s : σ) :
    noted record (ns ++ ms) s = noted record ms (noted record ns s) := List.foldl_append

/-- The outcome of a computation and the notes it takes, whatever the record was before. -/
def Takes (record : ν → σ → σ) (x : Recording σ ε α) (outcome : Except ε α) (notes : List ν) :
    Prop :=
  ∀ s, x s = (outcome, noted record notes s)

theorem takes_pure (a : α) : Takes record (pure a : Recording σ ε α) (.ok a) [] := fun _ => rfl

theorem takes_fail (e : ε) : Takes record (fail e : Recording σ ε α) (.error e) [] := fun _ => rfl

theorem takes_ofExcept (x : Except ε α) : Takes record (ofExcept x : Recording σ ε α) x [] :=
  fun _ => rfl

theorem takes_note (note : ν) :
    Takes record (Recording.note (record note) : Recording σ ε Unit) (.ok ()) [note] :=
  fun _ => rfl

theorem Takes.bind_ok {x : Recording σ ε α} {f : α → Recording σ ε β} {a : α}
    {outcome : Except ε β} {ns ms : List ν} (hx : Takes record x (.ok a) ns)
    (hf : Takes record (f a) outcome ms) : Takes record (x >>= f) outcome (ns ++ ms) := by
  intro s
  rw [run_bind_ok (hx s), hf, noted_append]

theorem Takes.bind_error {x : Recording σ ε α} {e : ε} {ns : List ν}
    (hx : Takes record x (.error e) ns) (f : α → Recording σ ε β) :
    Takes record (x >>= f) (.error e) ns := by
  intro s
  rw [run_bind_error (hx s)]

/-- The results for the items of a list and the notes taken on the way, put together. -/
inductive Collected (good : α → β → List ν → Prop) : List α → List β → List ν → Prop
  | nil : Collected good [] [] []
  | cons {a b as bs ns ms} (head : good a b ns) (tail : Collected good as bs ms) :
      Collected good (a :: as) (b :: bs) (ns ++ ms)

namespace Collected

variable {good : α → β → List ν → Prop}

theorem append {as as' : List α} {bs bs' : List β} {ns ms : List ν}
    (first : Collected good as bs ns) (second : Collected good as' bs' ms) :
    Collected good (as ++ as') (bs ++ bs') (ns ++ ms) := by
  induction first with
  | nil => exact second
  | cons head _ ih => simpa only [List.cons_append, List.append_assoc] using .cons head ih

theorem mono {other : α → β → List ν → Prop} {as : List α} {bs : List β} {ns : List ν}
    (h : Collected good as bs ns) (step : ∀ a b ns, good a b ns → other a b ns) :
    Collected other as bs ns := by
  induction h with
  | nil => exact .nil
  | cons head _ ih => exact .cons (step _ _ _ head) ih

theorem map_left {γ : Type} {g : γ → α} {cs : List γ} {bs : List β} {ns : List ν}
    (h : Collected (fun c => good (g c)) cs bs ns) : Collected good (cs.map g) bs ns := by
  induction h with
  | nil => exact .nil
  | cons head _ ih => exact .cons head ih

theorem forall_left {p : α → Prop} {as : List α} {bs : List β} {ns : List ν}
    (h : Collected good as bs ns) (step : ∀ a b ns, good a b ns → p a) : ∀ a ∈ as, p a := by
  induction h with
  | nil => nofun
  | cons head _ ih => exact List.forall_mem_cons.2 ⟨step _ _ _ head, ih⟩

theorem forall_right {p : β → Prop} {as : List α} {bs : List β} {ns : List ν}
    (h : Collected good as bs ns) (step : ∀ a b ns, good a b ns → p b) : ∀ b ∈ bs, p b := by
  induction h with
  | nil => nofun
  | cons head _ ih => exact List.forall_mem_cons.2 ⟨step _ _ _ head, ih⟩

/-- A result comes from an item. -/
theorem exists_left {as : List α} {bs : List β} {ns : List ν} (h : Collected good as bs ns) :
    ∀ b ∈ bs, ∃ a ∈ as, ∃ ms, good a b ms := by
  induction h with
  | nil => nofun
  | cons head _ ih =>
    refine List.forall_mem_cons.2 ⟨⟨_, List.mem_cons_self, _, head⟩, fun b mem => ?_⟩
    obtain ⟨a, ha, found⟩ := ih b mem
    exact ⟨a, List.mem_cons_of_mem _ ha, found⟩

theorem map_eq {γ : Type} {f : α → γ} {g : β → γ} {as : List α} {bs : List β} {ns : List ν}
    (h : Collected good as bs ns) (step : ∀ a b ns, good a b ns → g b = f a) :
    bs.map g = as.map f := by
  induction h with
  | nil => rfl
  | cons head _ ih => rw [List.map_cons, List.map_cons, step _ _ _ head, ih]

/-- Lists of results, one for each item, put together to one. -/
theorem flatten {γ : Type} {parts : γ → List α} {cs : List γ} {groups : List (List β)}
    {ns : List ν} (h : Collected (fun c bs ns => Collected good (parts c) bs ns) cs groups ns) :
    Collected good (cs.flatMap parts) groups.flatten ns := by
  induction h with
  | nil => exact .nil
  | cons head _ ih =>
    rw [List.flatMap_cons, List.flatten_cons]
    exact head.append ih

theorem forall₂ {as : List α} {bs : List β} {ns : List ν} (h : Collected good as bs ns) :
    List.Forall₂ (fun a b => ∃ ns, good a b ns) as bs := by
  induction h with
  | nil => exact .nil
  | cons head _ ih => exact .cons ⟨_, head⟩ ih

end Collected

/-- Notes are taken alike on every record, and a result comes with notes that fit it. -/
def Ensures (record : ν → σ → σ) (x : Recording σ ε α) (good : α → List ν → Prop) : Prop :=
  ∃ outcome notes, Takes record x outcome notes ∧ ∀ a, outcome = .ok a → good a notes

theorem ensures_pure {good : α → List ν → Prop} {a : α} (h : good a []) :
    Ensures record (pure a : Recording σ ε α) good := by
  refine ⟨_, _, takes_pure a, ?_⟩
  rintro _ ⟨⟩
  exact h

theorem ensures_fail {good : α → List ν → Prop} (e : ε) :
    Ensures record (fail e : Recording σ ε α) good :=
  ⟨_, _, takes_fail e, nofun⟩

namespace Ensures

variable {x : Recording σ ε α} {f : α → Recording σ ε β} {p : α → List ν → Prop}
  {good : β → List ν → Prop}

theorem mono {q : α → List ν → Prop} (h : Ensures record x p) (step : ∀ a ns, p a ns → q a ns) :
    Ensures record x q := by
  obtain ⟨outcome, notes, hx, hp⟩ := h
  exact ⟨outcome, notes, hx, fun a ha => step a notes (hp a ha)⟩

theorem bind (hx : Ensures record x p)
    (hf : ∀ a ns, p a ns → Ensures record (f a) fun b ms => good b (ns ++ ms)) :
    Ensures record (x >>= f) good := by
  obtain ⟨outcome, ns, hx, hp⟩ := hx
  cases outcome with
  | error e => exact ⟨_, _, hx.bind_error f, nofun⟩
  | ok a =>
    obtain ⟨result, ms, hfa, hgood⟩ := hf a ns (hp a rfl)
    exact ⟨_, _, hx.bind_ok hfa, hgood⟩

theorem bind_pure {g : α → β} (hx : Ensures record x p)
    (hg : ∀ a ns, p a ns → good (g a) ns) :
    Ensures record (x >>= fun a => pure (g a)) good := by
  refine hx.bind fun a ns ha => ensures_pure ?_
  rw [List.append_nil]
  exact hg a ns ha

theorem ofExcept_bind {y : Except ε α} (h : ∀ a, y = .ok a → Ensures record (f a) good) :
    Ensures record (ofExcept y >>= f) good := by
  refine bind (p := fun a ns => y = .ok a ∧ ns = []) ?_ ?_
  · exact ⟨_, _, takes_ofExcept y, fun a ha => ⟨ha, rfl⟩⟩
  · rintro a _ ⟨ha, rfl⟩
    exact h a ha

theorem each {f : α → Recording σ ε β} {p : α → β → List ν → Prop} {items : List α}
    (h : ∀ a ∈ items, Ensures record (f a) (p a)) :
    Ensures record (each f items) (Collected p items) := by
  induction items with
  | nil => exact ensures_pure .nil
  | cons a rest ih =>
    refine (h a List.mem_cons_self).bind fun b ns hb => ?_
    exact (ih fun c hc => h c (List.mem_cons_of_mem a hc)).bind_pure fun bs ms hbs => .cons hb hbs

/-- A result is the one that every record leads to. -/
theorem takes (h : Ensures record x p) :
    Ensures record x fun a ns => Takes record x (.ok a) ns ∧ p a ns := by
  obtain ⟨outcome, ns, hx, hp⟩ := h
  exact ⟨outcome, ns, hx, fun a ha => ⟨ha ▸ hx, hp a ha⟩⟩

theorem of_run (h : Ensures record x p) {s t : σ} {a : α} (run : x s = (.ok a, t)) :
    ∃ ns, t = noted record ns s ∧ p a ns := by
  obtain ⟨outcome, ns, hx, hp⟩ := h
  have same := (hx s).symm.trans run
  simp only [Prod.mk.injEq] at same
  exact ⟨ns, same.2.symm, hp a same.1⟩

end Ensures

/-- Notes are taken alike on every record, and there is a result just when a condition holds. -/
def Decides (record : ν → σ → σ) (x : Recording σ ε α) (condition : Prop) (good : α → Prop) :
    Prop :=
  ∃ outcome notes, Takes record x outcome notes ∧ (∀ a, outcome = .ok a → good a) ∧
    ((∃ a, outcome = .ok a) ↔ condition)

theorem decides_pure {good : α → Prop} {a : α} (h : good a) :
    Decides record (pure a : Recording σ ε α) True good := by
  refine ⟨_, _, takes_pure a, ?_, iff_of_true ⟨a, rfl⟩ trivial⟩
  rintro _ ⟨⟩
  exact h

theorem Takes.decides {x : Recording σ ε α} {a : α} {ns : List ν} (h : Takes record x (.ok a) ns) :
    Decides record x True fun _ => True :=
  ⟨_, _, h, fun _ _ => trivial, iff_of_true ⟨a, rfl⟩ trivial⟩

theorem decides_fail {good : α → Prop} (e : ε) :
    Decides record (fail e : Recording σ ε α) False good :=
  ⟨_, _, takes_fail e, nofun, iff_of_false nofun id⟩

namespace Decides

variable {x : Recording σ ε α} {f : α → Recording σ ε β} {q r : Prop} {p : α → Prop}
  {good : β → Prop}

theorem congr (h : Decides record x q p) (same : q ↔ r) : Decides record x r p := by
  obtain ⟨outcome, notes, hx, hp, hq⟩ := h
  exact ⟨outcome, notes, hx, hp, hq.trans same⟩

theorem bind (hx : Decides record x q p) (hf : ∀ a, p a → Decides record (f a) r good) :
    Decides record (x >>= f) (q ∧ r) good := by
  obtain ⟨outcome, ns, hx, hp, hq⟩ := hx
  cases outcome with
  | error e =>
    have failed : ¬q := fun h => nomatch hq.2 h
    exact ⟨_, _, hx.bind_error f, nofun, iff_of_false nofun fun h => failed h.1⟩
  | ok a =>
    obtain ⟨result, ms, hfa, hgood, hr⟩ := hf a (hp a rfl)
    have finished : q := hq.1 ⟨a, rfl⟩
    refine ⟨_, _, hx.bind_ok hfa, hgood, hr.trans ?_⟩
    exact ⟨fun h => ⟨finished, h⟩, fun h => h.2⟩

theorem bind_pure {g : α → β} (hx : Decides record x q p) :
    Decides record (x >>= fun a => pure (g a)) q fun _ => True :=
  (hx.bind fun _ _ => decides_pure trivial).congr (and_iff_left trivial)

theorem ofExcept_bind {y : Except ε α}
    (hf : ∀ a, y = .ok a → Decides record (f a) r good) :
    Decides record (ofExcept y >>= f) ((∃ a, y = .ok a) ∧ r) good :=
  bind ⟨_, _, takes_ofExcept y, fun _ ha => ha, Iff.rfl⟩ hf

theorem each {f : α → Recording σ ε β} {q : α → Prop} {items : List α}
    (h : ∀ a ∈ items, Decides record (f a) (q a) fun _ => True) :
    Decides record (each f items) (∀ a ∈ items, q a) fun _ => True := by
  induction items with
  | nil => exact (decides_pure trivial).congr (by simp)
  | cons a rest ih =>
    have later := ih fun c hc => h c (List.mem_cons_of_mem a hc)
    refine ((h a List.mem_cons_self).bind fun _ _ => later.bind_pure).congr ?_
    rw [List.forall_mem_cons]

/-- A single run shows whether there is a result. -/
theorem iff_run (h : Decides record x q p) (s : σ) : (∃ a, (x s).1 = .ok a) ↔ q := by
  obtain ⟨outcome, ns, hx, _, hq⟩ := h
  rw [hx s]
  exact hq

end Decides

/-! ## Loops in parts -/

theorem id_map_run (x : Recording σ ε α) : id <$> x = x := by
  funext s
  change (x >>= fun a => pure (id a)) s = x s
  rw [run_bind]
  cases x s with
  | mk outcome t => cases outcome <;> rfl

theorem bind_assoc_run {γ : Type} (x : Recording σ ε α) (f : α → Recording σ ε β)
    (g : β → Recording σ ε γ) : x >>= f >>= g = x >>= fun a => f a >>= g := by
  funext s
  simp only [run_bind]
  cases x s with
  | mk outcome t => cases outcome <;> rfl

instance : LawfulMonad (Recording σ ε) :=
  LawfulMonad.mk' _ id_map_run (fun _ _ => rfl) bind_assoc_run

theorem each_append (f : α → Recording σ ε β) (items items' : List α) :
    each f (items ++ items') = (do
      let results ← each f items
      let results' ← each f items'
      pure (results ++ results')) := by
  induction items with
  | nil => simp [each]
  | cons a rest ih => simp [each, ih]

theorem Takes.each_append {f : α → Recording σ ε β} {items items' : List α} {bs bs' : List β}
    {ns ms : List ν} (first : Takes record (each f items) (.ok bs) ns)
    (second : Takes record (each f items') (.ok bs') ms) :
    Takes record (each f (items ++ items')) (.ok (bs ++ bs')) (ns ++ ms) := by
  rw [Recording.each_append, ← List.append_nil ms]
  exact first.bind_ok (second.bind_ok (takes_pure _))

/-! ## Loops in another order -/

theorem Collected.perm {good : α → β → List ν → Prop} {as as' : List α} {bs : List β}
    {ns : List ν} (h : Collected good as bs ns) (order : as.Perm as') :
    ∃ bs' ns', Collected good as' bs' ns' ∧ bs.Perm bs' ∧ ns.Perm ns' := by
  induction order generalizing bs ns with
  | nil => exact ⟨bs, ns, h, .refl _, .refl _⟩
  | cons a _ ih =>
    cases h with
    | cons head tail =>
      obtain ⟨bs', ns', h', hbs, hns⟩ := ih tail
      exact ⟨_, _, .cons head h', hbs.cons _, hns.append_left _⟩
  | swap a a' rest =>
    cases h with
    | cons first rest =>
      cases rest with
      | cons second rest =>
        refine ⟨_, _, .cons second (.cons first rest), .swap _ _ _, ?_⟩
        rw [← List.append_assoc, ← List.append_assoc]
        exact List.perm_append_comm.append_right _
  | trans _ _ ih ih' =>
    obtain ⟨_, _, h, hbs, hns⟩ := ih h
    obtain ⟨bs', ns', h', hbs', hns'⟩ := ih' h
    exact ⟨bs', ns', h', hbs.trans hbs', hns.trans hns'⟩

theorem Collected.takes_each {f : α → Recording σ ε β} {as : List α} {bs : List β} {ns : List ν}
    (h : Collected (fun a b ns => Takes record (f a) (.ok b) ns) as bs ns) :
    Takes record (each f as) (.ok bs) ns := by
  induction h with
  | nil => exact takes_pure []
  | @cons _ b _ bs ns ms head _ ih =>
    rw [← List.append_nil ms]
    exact head.bind_ok (ih.bind_ok (takes_pure (b :: bs)))

/-- Items related one by one to others, with results that are related as well. -/
theorem Collected.along {α' β' : Type} {good : α → β → List ν → Prop}
    {good' : α' → β' → List ν → Prop} {R : α → α' → Prop} {S : β → β' → Prop} {as : List α}
    {as' : List α'} {bs : List β} {ns : List ν} (h : Collected good as bs ns)
    (related : List.Forall₂ R as as')
    (step : ∀ a a' b ns, R a a' → good a b ns →
      ∃ b' ns', good' a' b' ns' ∧ S b b' ∧ ns.Perm ns') :
    ∃ bs' ns', Collected good' as' bs' ns' ∧ List.Forall₂ S bs bs' ∧ ns.Perm ns' := by
  induction related generalizing bs ns with
  | nil =>
    cases h
    exact ⟨[], [], .nil, .nil, .refl _⟩
  | cons first _ ih =>
    cases h with
    | cons head tail =>
      obtain ⟨b', ns', head', hb, hns⟩ := step _ _ _ _ first head
      obtain ⟨bs', ms', tail', hbs, hms⟩ := ih tail
      exact ⟨b' :: bs', ns' ++ ms', .cons head' tail', .cons hb hbs, hns.append hms⟩

/-- In another order a loop has the same results and takes the same notes, in another order. -/
theorem Ensures.each_perm {f : α → Recording σ ε β}
    (h : ∀ a, Ensures record (f a) fun _ _ => True) (items : List α) :
    Ensures record (Recording.each f items) fun bs ns => ∀ items' : List α, items.Perm items' →
      ∃ bs' ns', Takes record (Recording.each f items') (.ok bs') ns' ∧ bs.Perm bs' ∧
        ns.Perm ns' := by
  refine (Ensures.each fun a (_ : a ∈ items) => (h a).takes).mono fun bs ns collected => ?_
  intro items' order
  obtain ⟨bs', ns', collected', hbs, hns⟩ :=
    (collected.mono fun _ _ _ taken => taken.1).perm order
  exact ⟨bs', ns', collected'.takes_each, hbs, hns⟩

/-! ## Computations retold -/

/-- A computation that does what another one does, with its result changed and only some of its
    notes taken. -/
def Retells (record : ν → σ → σ) (change : α → β) (keep : ν → Bool) (x : Recording σ ε α)
    (y : Recording σ ε β) : Prop :=
  ∃ outcome notes, Takes record x outcome notes ∧
    Takes record y (outcome.map change) (notes.filter keep)

section

variable {change : α → β} {keep : ν → Bool}

theorem retells_pure (a : α) :
    Retells record change keep (pure a : Recording σ ε α) (pure (change a)) :=
  ⟨_, _, takes_pure a, takes_pure (change a)⟩

theorem retells_fail (e : ε) :
    Retells record change keep (fail e : Recording σ ε α) (fail e) :=
  ⟨_, _, takes_fail e, takes_fail e⟩

/-- A computation whose notes are all kept retells itself. -/
theorem Takes.retells {x : Recording σ ε α} {outcome : Except ε α} {ns : List ν}
    (h : Takes record x outcome ns) (kept : ∀ n ∈ ns, keep n = true) :
    Retells record id keep x x := by
  refine ⟨outcome, ns, h, ?_⟩
  have same : outcome.map id = outcome := by cases outcome <;> rfl
  rw [same, List.filter_eq_self.2 kept]
  exact h

namespace Retells

variable {γ δ : Type} {later : γ → δ}

theorem bind {x : Recording σ ε α} {y : Recording σ ε β} {f : α → Recording σ ε γ}
    {g : β → Recording σ ε δ} (hx : Retells record change keep x y)
    (hf : ∀ a, Retells record later keep (f a) (g (change a))) :
    Retells record later keep (x >>= f) (y >>= g) := by
  obtain ⟨outcome, ns, hx, hy⟩ := hx
  cases outcome with
  | error e => exact ⟨_, _, hx.bind_error f, hy.bind_error g⟩
  | ok a =>
    obtain ⟨result, ms, hfa, hga⟩ := hf a
    refine ⟨_, _, hx.bind_ok hfa, ?_⟩
    rw [List.filter_append]
    exact hy.bind_ok hga

theorem ofExcept_bind {y : Except ε α} {f : α → Recording σ ε γ} {g : α → Recording σ ε δ}
    (hf : ∀ a, Retells record later keep (f a) (g a)) :
    Retells record later keep (ofExcept y >>= f) (ofExcept y >>= g) :=
  bind ((takes_ofExcept y).retells nofun) hf

theorem each {f : γ → Recording σ ε α} {g : γ → Recording σ ε β}
    (h : ∀ c, Retells record change keep (f c) (g c)) (items : List γ) :
    Retells record (List.map change) keep (each f items) (each g items) := by
  induction items with
  | nil => exact retells_pure []
  | cons c rest ih =>
    refine (h c).bind fun a => ?_
    exact ih.bind fun as => retells_pure (a :: as)

theorem ensures {x : Recording σ ε α} {y : Recording σ ε β} (h : Retells record change keep x y) :
    Ensures record x fun a notes => Takes record y (.ok (change a)) (notes.filter keep) := by
  obtain ⟨outcome, notes, hx, hy⟩ := h
  refine ⟨outcome, notes, hx, ?_⟩
  rintro a rfl
  exact hy

theorem of_run {x : Recording σ ε α} {y : Recording σ ε β} (h : Retells record change keep x y)
    {s t : σ} {a : α} (run : x s = (.ok a, t)) :
    ∃ ns, Takes record x (.ok a) ns ∧ Takes record y (.ok (change a)) (ns.filter keep) := by
  obtain ⟨outcome, ns, hx, hy⟩ := h
  have same : outcome = .ok a := congrArg Prod.fst ((hx s).symm.trans run)
  subst same
  exact ⟨ns, hx, hy⟩

end Retells

end

end RequestSchema.Recording
