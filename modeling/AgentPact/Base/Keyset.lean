import Mathlib.Data.List.Forall2
import Mathlib.Data.List.Sort

/-!
# Listing rows page by page

Rows are listed by a key, the greatest first, and a page of them ends with a
cursor that denotes the key of its last row.  The next page is what is below it.

A page fetches one row more than it shows, and has a cursor only where it finds
that row.  Reading a row may fail, and then the page fails.

`follows_reads` says that the pages that follow one another are the rows in order,
each once, and `exists_follows` that they come to an end where every row is read.
-/

namespace Base

namespace Keyset

/-! ## Rows below a key -/

section

variable {ρ κ : Type} [LinearOrder κ] (key : ρ → κ) {rows : List ρ}

/-- The rows in descending order of their keys. -/
def descending (rows : List ρ) : List ρ := rows.insertionSort fun a b => key b ≤ key a

/-- Whether a row is below a boundary, if there is one. -/
def below (b : Option κ) (r : ρ) : Bool := b.all fun k => key r < k

/-- The rows below a boundary, in descending order. -/
def after (b : Option κ) (rows : List ρ) : List ρ := descending key (rows.filter (below key b))

theorem mem_after {b : Option κ} {r : ρ} :
    r ∈ after key b rows ↔ r ∈ rows ∧ below key b r = true := by
  unfold after descending
  rw [List.mem_insertionSort, List.mem_filter]

theorem descending_pairwise (rows : List ρ) :
    (descending key rows).Pairwise fun a b => key b ≤ key a := by
  have htotal : Std.Total fun a b : ρ => key b ≤ key a := ⟨fun a b => le_total (key b) (key a)⟩
  have htrans : IsTrans ρ fun a b : ρ => key b ≤ key a := ⟨fun _ _ _ hab hbc => le_trans hbc hab⟩
  exact List.pairwise_insertionSort _ rows

/-- Rows of different keys descend strictly. -/
theorem after_pairwise (h : (rows.map key).Nodup) (b : Option κ) :
    (after key b rows).Pairwise fun r s => key s < key r := by
  have hsub : ((rows.filter (below key b)).map key).Nodup :=
    h.sublist (List.filter_sublist.map key)
  have hperm : (after key b rows).Perm (rows.filter (below key b)) := List.perm_insertionSort _ _
  have hnodup : ((after key b rows).map key).Nodup := (hperm.map key).nodup_iff.mpr hsub
  rw [List.Nodup, List.pairwise_map] at hnodup
  have hboth := (descending_pairwise key (rows.filter (below key b))).and hnodup
  exact hboth.imp fun hrs => lt_of_le_of_ne hrs.1 hrs.2.symm

/-- What is below a row of a listing is the rest of it. -/
theorem after_of_append (h : (rows.map key).Nodup) {b : Option κ} {xs ys : List ρ} {x : ρ}
    (hsplit : after key b rows = xs ++ x :: ys) : after key (some (key x)) rows = ys := by
  have hsorted := after_pairwise key h b
  rw [hsplit] at hsorted
  have hys : ys.Pairwise fun r s => key s < key r :=
    (List.pairwise_cons.mp (List.pairwise_append.mp hsorted).2.1).2
  have hrest := after_pairwise key h (some (key x))
  have hirrefl : ∀ zs : List ρ, zs.Pairwise (fun r s => key s < key r) → zs.Nodup :=
    fun zs hzs => hzs.imp fun hlt heq => hlt.ne' (congrArg key heq)
  have hmem : ∀ r, r ∈ after key (some (key x)) rows ↔ r ∈ ys := by
    intro r
    rw [mem_after]
    have hx : x ∈ after key b rows := by
      rw [hsplit]
      simp
    constructor
    · rintro ⟨hr, hbelow⟩
      have hlt : key r < key x := by simpa [below] using hbelow
      have hall : r ∈ after key b rows := by
        refine (mem_after key).mpr ⟨hr, ?_⟩
        have hxbelow := ((mem_after key).mp hx).2
        cases b with
        | none => rfl
        | some k =>
            have : key x < k := by simpa [below] using hxbelow
            simpa [below] using hlt.trans this
      rw [hsplit] at hall
      rcases List.mem_append.mp hall with hmem | hmem
      · have hgt := (List.pairwise_append.mp hsorted).2.2 r hmem x (List.mem_cons_self ..)
        exact absurd hlt hgt.asymm
      · rcases List.mem_cons.mp hmem with rfl | hmem
        · exact absurd hlt (lt_irrefl _)
        · exact hmem
    · intro hr
      have hlt := (List.pairwise_cons.mp (List.pairwise_append.mp hsorted).2.1).1 r hr
      have hall : r ∈ after key b rows := by
        rw [hsplit]
        simp [hr]
      exact ⟨((mem_after key).mp hall).1, by simpa [below] using hlt⟩
  refine List.Perm.eq_of_pairwise ?_ hrest hys
    ((List.perm_ext_iff_of_nodup (hirrefl _ hrest) (hirrefl _ hys)).mpr hmem)
  intro r s _ _ hrs hsr
  exact absurd hrs hsr.asymm

end

/-! ## Pages -/

/-- A page. -/
structure Page (σ γ : Type) where
  items : List σ
  next : Option γ

/-- The items of some pages. -/
def Page.all {σ γ : Type} (pages : List (Page σ γ)) : List σ := pages.flatMap (·.items)

/-- How rows are read and what cursors denote. -/
structure Listing (ρ κ σ γ ε : Type) where
  key : ρ → κ
  read : ρ → Except ε σ
  cursor : σ → γ
  denote : γ → Except ε (Option κ)

variable {ρ κ σ γ ε : Type}

/-- Following the cursors from page to page, up to a page without one. -/
inductive Follows (list : Option γ → Except ε (Page σ γ)) : Option γ → List (Page σ γ) → Prop
  | last {c : Option γ} {p : Page σ γ} (hpage : list c = .ok p) (hnext : p.next = none) :
      Follows list c [p]
  | more {c : Option γ} {p : Page σ γ} {c' : γ} {ps : List (Page σ γ)} (hpage : list c = .ok p)
      (hnext : p.next = some c') (hrest : Follows list (some c') ps) : Follows list c (p :: ps)

/-- There is one way to follow the cursors. -/
theorem Follows.unique {list : Option γ → Except ε (Page σ γ)} {c : Option γ}
    {ps qs : List (Page σ γ)} (h : Follows list c ps) (h' : Follows list c qs) : ps = qs := by
  induction h generalizing qs with
  | last hpage hnext =>
      cases h' with
      | last hpage' _ =>
          rw [hpage] at hpage'
          cases hpage'
          rfl
      | more hpage' hnext' _ =>
          rw [hpage] at hpage'
          cases hpage'
          rw [hnext] at hnext'
          cases hnext'
  | more hpage hnext _ ih =>
      cases h' with
      | last hpage' hnext' =>
          rw [hpage] at hpage'
          cases hpage'
          rw [hnext] at hnext'
          cases hnext'
      | more hpage' hnext' hrest' =>
          rw [hpage] at hpage'
          cases hpage'
          rw [hnext] at hnext'
          cases hnext'
          rw [ih hrest']

section

variable (L : Listing ρ κ σ γ ε)

/-- What reading a row gives. -/
def Listing.Reads (r : ρ) (s : σ) : Prop := L.read r = .ok s

/-- The cursor of what is read denotes the row. -/
def Listing.Denotes (r : ρ) (s : σ) : Prop := L.denote (L.cursor s) = .ok (some (L.key r))

theorem bind_eq_ok {α β : Type} {x : Except ε α} {f : α → Except ε β} {b : β} :
    (x >>= f) = .ok b ↔ ∃ a, x = .ok a ∧ f a = .ok b := by
  cases x with
  | ok a => exact ⟨fun h => ⟨a, rfl, h⟩, by rintro ⟨_, ⟨⟩, h⟩; exact h⟩
  | error e => exact ⟨nofun, by rintro ⟨_, ⟨⟩, _⟩⟩

theorem mapM_read {as : List ρ} {items : List σ} :
    as.mapM L.read = .ok items ↔ List.Forall₂ L.Reads as items := by
  induction as generalizing items with
  | nil =>
      rw [List.mapM_nil, List.forall₂_nil_left_iff]
      exact ⟨fun h => by cases h; rfl, fun h => by rw [h]; rfl⟩
  | cons a as ih =>
      rw [List.mapM_cons, List.forall₂_cons_left_iff, bind_eq_ok]
      constructor
      · rintro ⟨s, hs, h⟩
        obtain ⟨rest, hrest, h⟩ := bind_eq_ok.mp h
        cases h
        exact ⟨s, rest, hs, ih.mp hrest, rfl⟩
      · rintro ⟨s, rest, hs, hrest, rfl⟩
        exact ⟨s, hs, bind_eq_ok.mpr ⟨rest, ih.mpr hrest, rfl⟩⟩

/-- Rows that are read, up to the last one. -/
theorem reads_append {xs : List ρ} {x : ρ} {items : List σ}
    (h : List.Forall₂ L.Reads (xs ++ [x]) items) :
    ∃ before s, items = before ++ [s] ∧ L.Reads x s := by
  have hreverse := List.forall₂_reverse_iff.mpr h
  rw [List.reverse_append, List.reverse_singleton, List.singleton_append,
    List.forall₂_cons_left_iff] at hreverse
  obtain ⟨s, rest, hs, -, hrest⟩ := hreverse
  refine ⟨rest.reverse, s, ?_, hs⟩
  rw [← List.reverse_cons, ← hrest, List.reverse_reverse]

variable {L}

/-- Of each row something is read. -/
theorem exists_reads_of_mem {as : List ρ} {items : List σ} (h : List.Forall₂ L.Reads as items)
    {r : ρ} (hr : r ∈ as) : ∃ s ∈ items, L.Reads r s := by
  induction h with
  | nil => cases hr
  | @cons a s as items hs _ ih =>
      rcases List.mem_cons.mp hr with rfl | hr
      · exact ⟨s, List.mem_cons_self .., hs⟩
      · obtain ⟨t, ht, hread⟩ := ih hr
        exact ⟨t, List.mem_cons_of_mem _ ht, hread⟩

variable (L)

/-- The boundary of a cursor, and none before the first page. -/
def start : Option γ → Except ε (Option κ)
  | none => .ok none
  | some c => L.denote c

variable [LinearOrder κ] (rows : List ρ) (limit : Nat)

/-- The page below a boundary. -/
def page (b : Option κ) : Except ε (Page σ γ) := do
  let fetched := (after L.key b rows).take (limit + 1)
  let items ← (fetched.take limit).mapM L.read
  pure ⟨items, if limit < fetched.length then items.getLast?.map L.cursor else none⟩

/-- The page after a cursor. -/
def list (c : Option γ) : Except ε (Page σ γ) := do
  let b ← start L c
  page L rows limit b

/-- A page shows the rows up to its limit, and has a cursor where there is a row more. -/
theorem page_eq_ok {b : Option κ} {p : Page σ γ} :
    page L rows limit b = .ok p ↔
      List.Forall₂ L.Reads ((after L.key b rows).take limit) p.items ∧
        p.next = if limit < (after L.key b rows).length then p.items.getLast?.map L.cursor
          else none := by
  have htake : ((after L.key b rows).take (limit + 1)).take limit =
      (after L.key b rows).take limit := by
    rw [List.take_take, Nat.min_eq_left (Nat.le_succ limit)]
  have hmore : limit < ((after L.key b rows).take (limit + 1)).length ↔
      limit < (after L.key b rows).length := by
    rw [List.length_take]
    omega
  unfold page
  simp only [htake, hmore]
  rw [bind_eq_ok]
  constructor
  · rintro ⟨items, hitems, h⟩
    cases h
    exact ⟨(mapM_read L).mp hitems, rfl⟩
  · rintro ⟨hitems, hnext⟩
    refine ⟨p.items, (mapM_read L).mpr hitems, ?_⟩
    rw [← hnext]
    rfl

variable {L rows limit}

/-- A page with a cursor ends with the row that the cursor is made of, and what is below that row
is what the page left. -/
theorem page_next (hkeys : (rows.map L.key).Nodup) {b : Option κ} {p : Page σ γ} {c : γ}
    (hpage : page L rows limit b = .ok p) (hnext : p.next = some c) :
    limit < (after L.key b rows).length ∧ ∃ x s, x ∈ after L.key b rows ∧ L.Reads x s ∧
      p.items.getLast? = some s ∧ c = L.cursor s ∧
        after L.key (some (L.key x)) rows = (after L.key b rows).drop limit := by
  obtain ⟨hitems, hcursor⟩ := (page_eq_ok L rows limit).mp hpage
  rw [hnext] at hcursor
  by_cases hmore : limit < (after L.key b rows).length
  · rw [if_pos hmore] at hcursor
    have hsplit := List.take_append_drop limit (after L.key b rows)
    rcases List.eq_nil_or_concat ((after L.key b rows).take limit) with hnil | ⟨xs, x, hconcat⟩
    · rw [hnil, List.forall₂_nil_left_iff] at hitems
      rw [hitems] at hcursor
      cases hcursor
    · rw [List.concat_eq_append] at hconcat
      rw [hconcat] at hitems hsplit
      obtain ⟨before, s, hbefore, hs⟩ := reads_append L hitems
      rw [hbefore, List.getLast?_concat] at hcursor
      cases hcursor
      refine ⟨hmore, x, s, ?_, hs, ?_, rfl, ?_⟩
      · rw [← hsplit]
        simp
      · rw [hbefore, List.getLast?_concat]
      · have happend : after L.key b rows = xs ++ x :: (after L.key b rows).drop limit := by
          rw [List.append_assoc] at hsplit
          exact hsplit.symm
        exact after_of_append L.key hkeys happend
  · rw [if_neg hmore] at hcursor
    cases hcursor

/-- A page without a cursor shows all there is, if it may show a row. -/
theorem page_last (hlimit : 0 < limit) {b : Option κ} {p : Page σ γ}
    (hpage : page L rows limit b = .ok p) (hnext : p.next = none) :
    List.Forall₂ L.Reads (after L.key b rows) p.items := by
  obtain ⟨hitems, hcursor⟩ := (page_eq_ok L rows limit).mp hpage
  by_cases hmore : limit < (after L.key b rows).length
  · rw [if_pos hmore, hnext, eq_comm, Option.map_eq_none_iff, List.getLast?_eq_none_iff] at hcursor
    rw [hcursor, List.forall₂_nil_right_iff] at hitems
    have hlength := congrArg List.length hitems
    rw [List.length_take, List.length_nil] at hlength
    omega
  · rwa [List.take_of_length_le (Nat.le_of_not_lt hmore)] at hitems

/-- The pages that follow one another show the rows below the first boundary, in order and each
once. -/
theorem follows_reads (hkeys : (rows.map L.key).Nodup) (hlimit : 0 < limit)
    (hcursors : ∀ r ∈ rows, ∀ s, L.Reads r s → L.Denotes r s) {c : Option γ}
    {pages : List (Page σ γ)} (h : Follows (list L rows limit) c pages) {b : Option κ}
    (hstart : start L c = .ok b) :
    List.Forall₂ L.Reads (after L.key b rows) (Page.all pages) := by
  induction h generalizing b with
  | @last c p hpage hnext =>
      rw [list, hstart] at hpage
      have hall := page_last hlimit hpage hnext
      simpa [Page.all] using hall
  | @more c p c' ps hpage hnext _ ih =>
      rw [list, hstart] at hpage
      obtain ⟨_, x, s, hx, hs, _, rfl, hrest⟩ := page_next hkeys hpage hnext
      have hdenotes := hcursors x ((mem_after L.key).mp hx).1 s hs
      have hbelow := ih hdenotes
      rw [hrest] at hbelow
      have happend : List.Forall₂ L.Reads ((after L.key b rows).take limit ++
          (after L.key b rows).drop limit) (p.items ++ Page.all ps) :=
        List.rel_append ((page_eq_ok L rows limit).mp hpage).1 hbelow
      rwa [List.take_append_drop] at happend

/-- Where every row is read, the pages come to an end. -/
theorem exists_follows (hkeys : (rows.map L.key).Nodup) (hlimit : 0 < limit) {b : Option κ}
    (hread : ∀ r ∈ after L.key b rows, ∃ s, L.Reads r s)
    (hcursors : ∀ r ∈ rows, ∀ s, L.Reads r s → L.Denotes r s) {c : Option γ}
    (hstart : start L c = .ok b) : ∃ pages, Follows (list L rows limit) c pages := by
  -- each page leaves fewer rows
  induction hn : (after L.key b rows).length using Nat.strong_induction_on generalizing b c with
  | _ n ih =>
    have hreads : ∀ as : List ρ, (∀ r ∈ as, ∃ s, L.Reads r s) →
        ∃ items, List.Forall₂ L.Reads as items := by
      intro as has
      induction as with
      | nil => exact ⟨[], .nil⟩
      | cons a as ih =>
          obtain ⟨s, hs⟩ := has a (List.mem_cons_self ..)
          obtain ⟨items, hitems⟩ := ih fun r hr => has r (List.mem_cons_of_mem _ hr)
          exact ⟨s :: items, .cons hs hitems⟩
    obtain ⟨items, hitems⟩ := hreads ((after L.key b rows).take limit)
      fun r hr => hread r (List.mem_of_mem_take hr)
    let p : Page σ γ :=
      ⟨items, if limit < (after L.key b rows).length then items.getLast?.map L.cursor else none⟩
    have hpage : page L rows limit b = .ok p := (page_eq_ok L rows limit).mpr ⟨hitems, rfl⟩
    have hlist : list L rows limit c = .ok p := by
      rw [list, hstart]
      exact hpage
    cases hnext : p.next with
    | none => exact ⟨[p], .last hlist hnext⟩
    | some c' =>
        obtain ⟨hmore, x, s, hx, hs, _, rfl, hrest⟩ := page_next hkeys hpage hnext
        have hdenotes : start L (some (L.cursor s)) = .ok (some (L.key x)) :=
          hcursors x ((mem_after L.key).mp hx).1 s hs
        have hfewer : (after L.key (some (L.key x)) rows).length < n := by
          rw [hrest, List.length_drop]
          omega
        obtain ⟨pages, hpages⟩ := ih _ hfewer
          (by
            rw [hrest]
            exact fun r hr => hread r (List.mem_of_mem_drop hr))
          hdenotes rfl
        exact ⟨p :: pages, .more hlist hnext hpages⟩

end

end Keyset

end Base
