import PatternNfa.Proofs.Traversal

/-!
# `PatternNfa.Proofs.DepthFirst`: a walk is a depth-first search, asked edge by edge

A depth-first search is a recursion: it comes to an id, goes through all that is new below it, and
only then goes on to the next id. `Arena.preorder` is that recursion. A walk has no recursion, but a
stack on which an id can stand several times, since an id counts as seen when it is taken off and
not when it is put on. `visits_append` says that what is on top of the stack is searched before
anything below it is looked at, and so a walk looks at the ids in the order of the recursion.

`Walk.ask` gives one edge at a time and changes the walk, also when there is no edge left: the ids
that were still on the stack are gone then. `answer_eq` says that the answers are the edges of
`toList` in their order and nothing after them. `walk_preorder` puts the two together and adds what
follows for the single edge: how often it is reported, and after what.
-/

set_option autoImplicit false

namespace PatternNfa

namespace Arena

variable {a : Arena}

/-! ### The recursive search -/

/-- The ids that a recursive search from some ids, one after another, comes to for the first time,
in this order. A new id is followed by all that is new below it, where the target of its last edge
is searched first. Only then does the search go on to the next id, with all that as seen. -/
def preorder (a : Arena) (seen : List StateId) : List StateId → List StateId
  | [] => []
  | id :: ids =>
      if id ∈ seen then preorder a seen ids
      else
        let found := id :: preorder a (id :: seen) ((a.edgesOf id).map Edge.target).reverse
        found ++ preorder a (found.reverse ++ seen) ids
termination_by ids => (a.unseen seen, ids.length)
decreasing_by
  · exact Prod.Lex.right _ (Nat.lt_succ_self _)
  -- Below an id without a state there is nothing to search.
  · rename_i hseen
    by_cases hid : id < a.size
    · exact Prod.Lex.left _ _ (unseen_cons_lt hid hseen)
    · rw [edgesOf_eq_nil (Nat.le_of_not_lt hid)]
      exact lex_of_le_of_lt (unseen_cons_le a id seen) (Nat.succ_pos _)
  -- Whatever was found, no more is unseen after it than before.
  · exact lex_of_le_of_lt (unseen_append_le a found.reverse seen) (Nat.lt_succ_self _)

/-- What is on top of the stack is searched first, and what is found there is seen for the rest. -/
theorem visits_append (a : Arena) (seen ids stack : List StateId) :
    a.visits seen (ids ++ stack) =
      a.preorder seen ids ++ a.visits ((a.preorder seen ids).reverse ++ seen) stack := by
  fun_induction preorder a seen ids generalizing stack with
  | case1 seen => rfl
  | case2 seen id ids hseen ih => rw [List.cons_append, visits_of_mem hseen, ih]
  | case3 seen id ids hseen found ihbelow ih =>
      -- The targets of the id come on top of the ids that it stood above.
      have hfound : found.reverse ++ seen =
          (a.preorder (id :: seen) ((a.edgesOf id).map Edge.target).reverse).reverse ++
            id :: seen := by
        rw [List.reverse_cons, List.append_assoc, List.singleton_append]
      rw [List.cons_append, visits_of_not_mem hseen, ihbelow, ← hfound, ih, List.reverse_append,
        List.append_assoc, List.append_assoc, List.cons_append]

/-- From a start, the ids are looked at in the order of the recursive search. -/
theorem visits_eq_preorder (a : Arena) (start : StateId) :
    a.visits [] [start] = a.preorder [] [start] := by
  have h := a.visits_append [] [start] []
  rwa [List.append_nil, visits, List.append_nil] at h

/-! ### Single edges -/

/-- Ids that do not repeat give each edge as often as its source has it. -/
theorem count_flatMap_edgesOf {ids : List StateId} (h : ids.Nodup) (e : Edge) :
    (ids.flatMap a.edgesOf).count e =
      if e.source ∈ ids then (a.edgesOf e.source).count e else 0 := by
  induction ids with
  | nil => simp
  | cons id ids ih =>
      obtain ⟨hid, hids⟩ := List.nodup_cons.mp h
      rw [List.flatMap_cons, List.count_append, ih hids]
      by_cases hsource : e.source = id
      · rw [if_neg (hsource ▸ hid), if_pos (hsource ▸ List.mem_cons_self), hsource, Nat.add_zero]
      · have hother : (a.edgesOf id).count e = 0 :=
          List.count_eq_zero_of_not_mem fun he => hsource (source_of_mem_edgesOf he)
        rw [hother, Nat.zero_add]
        simp [hsource]

/-- An id that is looked at was on the stack, or an id that was looked at before leads to it. -/
theorem mem_or_target_of_visits_split {seen stack before after : List StateId} {id : StateId}
    (h : a.visits seen stack = before ++ id :: after) :
    id ∈ stack ∨ ∃ p ∈ before, ∃ e ∈ a.edgesOf p, e.target = id := by
  fun_induction visits a seen stack generalizing before with
  | case1 seen => simp at h
  | case2 seen top stack hseen ih =>
      exact (ih h).imp_left (List.mem_cons_of_mem top)
  | case3 seen top stack hseen ih =>
      rcases List.cons_eq_append_iff.mp h with ⟨-, htop⟩ | ⟨before, rfl, hrest⟩
      · cases htop
        exact .inl List.mem_cons_self
      · rcases ih hrest with hid | ⟨p, hp, hedge⟩
        · rcases List.mem_append.mp hid with hid | hid
          · rw [List.mem_reverse] at hid
            exact .inr ⟨top, List.mem_cons_self, List.mem_map.mp hid⟩
          · exact .inl (List.mem_cons_of_mem top hid)
        · exact .inr ⟨p, List.mem_cons_of_mem top hp, hedge⟩

/-- A place among the edges of several ids belongs to one of the ids, and the edges of those before
it stand before that place. -/
theorem exists_split_of_flatMap_split {ids : List StateId} {before after : List Edge} {e : Edge}
    (h : ids.flatMap a.edgesOf = before ++ e :: after) :
    ∃ ids₁ ids₂, ids = ids₁ ++ e.source :: ids₂ ∧ ids₁.flatMap a.edgesOf <+: before := by
  induction ids generalizing before with
  | nil => simp at h
  | cons id ids ih =>
      rw [List.flatMap_cons] at h
      -- The edges of the first id end before the place, or the place is among them.
      rcases List.append_eq_append_iff.mp h with ⟨rest, rfl, hrest⟩ | ⟨rest, hid, hrest⟩
      · obtain ⟨ids₁, ids₂, rfl, hprefix⟩ := ih hrest
        exact ⟨id :: ids₁, ids₂, rfl, (List.prefix_append_right_inj _).mpr hprefix⟩
      · cases rest with
        | nil =>
            obtain ⟨ids₁, ids₂, rfl, hprefix⟩ := @ih [] hrest.symm
            have hbefore : (id :: ids₁).flatMap a.edgesOf = before := by
              rw [List.flatMap_cons, hid, List.prefix_nil.mp hprefix, List.append_nil,
                List.append_nil]
            exact ⟨id :: ids₁, ids₂, rfl, hbefore ▸ List.prefix_rfl⟩
        | cons e' rest =>
            cases hrest
            have hsource : e.source = id :=
              source_of_mem_edgesOf (hid ▸ List.mem_append_right _ List.mem_cons_self)
            exact ⟨[], ids, by rw [hsource, List.nil_append], List.nil_prefix⟩

/-- Every edge of a walk leaves from the start or from where an edge before it led. -/
theorem source_of_walk_split {start : StateId} {before after : List Edge} {e : Edge}
    (h : (a.walk start).toList = before ++ e :: after) :
    e.source = start ∨ ∃ e' ∈ before, e'.target = e.source := by
  rw [toList_walk] at h
  obtain ⟨ids₁, ids₂, hids, hprefix⟩ := exists_split_of_flatMap_split h
  -- The source is looked at as the start or after an id that leads to it, and all edges of that id
  -- are reported by then.
  rcases mem_or_target_of_visits_split hids with hstart | ⟨p, hp, e', he', htarget⟩
  · exact .inl (List.mem_singleton.mp hstart)
  · exact .inr ⟨e', hprefix.subset (List.mem_flatMap.mpr ⟨p, hp, he'⟩), htarget⟩

end Arena

namespace Walk

/-! ### Asking for edges -/

/-- Takes ids off the stack until one has edges, which wait then. If none has, the stack is empty in
the end. -/
def refill (a : Arena) (seen : List StateId) : List StateId → Walk
  | [] => { arena := a, stack := [], seen }
  | id :: stack =>
      if id ∈ seen then refill a seen stack
      else
        match a.edgesOf id with
        | [] => refill a (id :: seen) stack
        | e :: pending =>
            { arena := a
              stack := ((e :: pending).map Edge.target).reverse ++ stack
              seen := id :: seen
              pending := e :: pending }

/-- Asks for the next edge. The answer comes with the walk as it is from then on, also if no edge is
left. -/
def ask (w : Walk) : Option Edge × Walk :=
  match w.pending with
  | e :: pending => (some e, { w with pending })
  | [] =>
      let found := refill w.arena w.seen w.stack
      (found.pending.head?, { found with pending := found.pending.tail })

/-- The answer after `n` others. -/
def answer (w : Walk) : Nat → Option Edge
  | 0 => w.ask.1
  | n + 1 => w.ask.2.answer n

/-- A walk goes on by refilling its pending edges and taking the first of them. -/
theorem expand?_eq_refill (a : Arena) (seen stack : List StateId) :
    expand? a seen stack =
      match (refill a seen stack).pending with
      | [] => none
      | e :: pending => some (e, { refill a seen stack with pending }) := by
  induction stack generalizing seen with
  | nil => rfl
  | cons id stack ih =>
      rw [expand?, refill]
      split
      · exact ih seen
      · cases a.edgesOf id with
        | nil => exact ih (id :: seen)
        | cons e pending => rfl

/-- Nothing waits only once nothing is left on the stack. -/
theorem stack_refill {a : Arena} {seen stack : List StateId}
    (h : (refill a seen stack).pending = []) : (refill a seen stack).stack = [] := by
  induction stack generalizing seen with
  | nil => rfl
  | cons id stack ih =>
      rw [refill] at h ⊢
      split at h
      · rename_i hseen
        rw [if_pos hseen]
        exact ih h
      · rename_i hseen
        rw [if_neg hseen]
        cases hedges : a.edgesOf id with
        | nil =>
            rw [hedges] at h
            exact ih h
        | cons e pending =>
            rw [hedges] at h
            cases h

/-- Asking gives the next edge and the walk after it. If there is none, all that was on the stack
has been looked at. -/
theorem ask_eq (w : Walk) :
    w.ask =
      match w.next? with
      | none => (none, refill w.arena w.seen w.stack)
      | some (e, rest) => (some e, rest) := by
  rw [ask, next?]
  cases w.pending with
  | cons e pending => rfl
  | nil =>
      simp only [expand?_eq_refill]
      cases hfound : (refill w.arena w.seen w.stack).pending with
      | nil =>
          simp only [List.head?_nil, List.tail_nil]
          rw [← hfound]
      | cons e pending => rfl

/-- A walk that was asked in vain has nothing to report any more. -/
theorem toList_refill {w : Walk} (h : w.next? = none) :
    (refill w.arena w.seen w.stack).toList = [] := by
  have hpending : (refill w.arena w.seen w.stack).pending = [] := by
    rw [next?] at h
    split at h
    · cases h
    · rw [expand?_eq_refill] at h
      split at h
      · assumption
      · cases h
  rw [toList_eq, hpending, stack_refill hpending, Arena.visits]
  rfl

/-- The answers are the edges that are left, in their order, and then nothing. -/
theorem answer_eq (w : Walk) (n : Nat) : w.answer n = w.toList[n]? := by
  induction n generalizing w with
  | zero =>
      rw [answer, ask_eq, toList]
      split
      · rename_i hnext
        rw [hnext, List.getElem?_nil]
      · rename_i hnext
        rw [hnext, List.getElem?_cons_zero]
  | succ n ih =>
      rw [answer, ih, ask_eq, toList.eq_1 w]
      split
      · rename_i hnext
        rw [hnext, toList_refill hnext, List.getElem?_nil, List.getElem?_nil]
      · rename_i hnext
        rw [hnext, List.getElem?_cons_succ]

end Walk

namespace Arena

/-- A walk from a start reports the edges of the ids that a recursive depth-first search comes to,
id by id, each with all its edges in their order. So an edge whose source can be reached is reported
as often as its source has it, and no other edge is; and every edge leaves from the start or from
where an edge before it led. Asking gives these edges one by one, and then nothing for ever. The
arena is any: it can have cycles, several edges alike and targets without a state, and the start
need not have a state either. -/
theorem walk_preorder (a : Arena) (start : StateId) :
    (a.walk start).toList = (a.preorder [] [start]).flatMap a.edgesOf ∧
      (∀ e, a.Reaches start e.source →
        (a.walk start).toList.count e = (a.edgesOf e.source).count e) ∧
      (∀ e ∈ (a.walk start).toList, a.HasEdge e ∧ a.Reaches start e.source) ∧
      (∀ before e after, (a.walk start).toList = before ++ e :: after →
        e.source = start ∨ ∃ e' ∈ before, e'.target = e.source) ∧
      (∀ n, (a.walk start).answer n = (a.walk start).toList[n]?) ∧
      ∀ n m, n ≤ m → (a.walk start).answer n = none → (a.walk start).answer m = none := by
  have hwalk := a.toList_walk start
  refine ⟨?_, fun e hreach => ?_, fun e he => mem_walk_iff.mp he,
    fun before e after hsplit => source_of_walk_split hsplit, (a.walk start).answer_eq,
    fun n m hnm hnone => ?_⟩
  · rw [hwalk, visits_eq_preorder]
  · rw [hwalk, count_flatMap_edgesOf (a.visits_nodup [] [start]).1,
      if_pos (mem_visits_iff.mpr hreach)]
  · rw [Walk.answer_eq, List.getElem?_eq_none_iff] at hnone ⊢
    exact Nat.le_trans hnone hnm

/-- Two edges alike, a loop, a way back and a target without a state. -/
theorem walk_preorder_of_parallel :
    let a : Arena :=
      { states := [{ transitions := [('a', [1, 1])], epsilon := [0, 7] }, { epsilon := [0] }] }
    let first : List Edge :=
      [⟨0, .symbol 'a', 1⟩, ⟨0, .symbol 'a', 1⟩, ⟨0, .epsilon, 0⟩, ⟨0, .epsilon, 7⟩]
    (a.walk 0).toList = first ++ [⟨1, .epsilon, 0⟩] ∧
      (a.walk 0).toList.count ⟨0, .symbol 'a', 1⟩ = 2 ∧ a.Reaches 0 1 ∧
      (∃ e ∈ first, e.target = 1) ∧
      (a.walk 0).answer 4 = some ⟨1, .epsilon, 0⟩ ∧ (a.walk 0).answer 9 = none := by
  intro a first
  obtain ⟨horder, hcount, hmem, hsource, hanswer, hend⟩ := a.walk_preorder 0
  have hlist : (a.walk 0).toList = first ++ [⟨1, .epsilon, 0⟩] := horder.trans (by cbv)
  refine ⟨hlist, hcount ⟨0, .symbol 'a', 1⟩ (.refl a 0), ?_, ?_, ?_, ?_⟩
  · exact (hmem ⟨1, .epsilon, 0⟩ (by rw [hlist]; decide)).2
  · exact (hsource first ⟨1, .epsilon, 0⟩ [] hlist).resolve_left (by decide)
  · rw [hanswer, hlist]
    rfl
  · refine hend 5 9 (by decide) ?_
    rw [hanswer, hlist]
    rfl

end Arena

end PatternNfa
