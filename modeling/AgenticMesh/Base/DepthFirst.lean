import AgenticMesh.Base.Check
import Mathlib.Data.List.Chain
import Mathlib.Data.List.Nodup
import Mathlib.Data.List.Perm.Subperm
import Mathlib.Logic.Relation

/-!
# Depth-first search of a graph that is loaded on the way

The nodes of a graph are loaded one by one, and a loaded node names the nodes it
depends on.  The search keeps the nodes on the path from a root, so that it finds
a cycle, and lists a node after everything it depends on.  With enough fuel it
ends with a cycle, with an error of the loader, or with all reachable nodes in
such an order.
-/

namespace AgenticMesh

namespace DepthFirst

variable {V α ε : Type} [DecidableEq V]

section Search

variable (load : V → Except ε α) (next : α → List V) (cycle : List V → ε) (exhausted : ε)

/-- Visit a node; `visiting` is the path to it, and `done` lists the nodes that are finished. -/
def visit : ℕ → List V → List (V × α) → V → Except ε (List (V × α))
  | 0, _, _, _ => .error exhausted
  | fuel + 1, visiting, done, v =>
    if v ∈ done.map Prod.fst then .ok done
    else if v ∈ visiting then .error (cycle (visiting.dropWhile (fun u => u ≠ v) ++ [v]))
    else do
      let a ← load v
      let done ← (next a).foldlM (visit fuel (visiting ++ [v])) done
      return done ++ [(v, a)]

/-- Visit the roots one after the other. -/
def search (fuel : ℕ) (roots : List V) : Except ε (List (V × α)) :=
  roots.foldlM (visit load next cycle exhausted fuel []) []

/-- A node depends on another one. -/
def Dep (v w : V) : Prop := ∃ a, load v = .ok a ∧ w ∈ next a

/-- A node can be reached from one of some nodes. -/
def Reachable (roots : List V) (v : V) : Prop :=
  ∃ r ∈ roots, Relation.ReflTransGen (Dep load next) r v

/-- A closed path at a node. -/
def IsCycle (v : V) (path : List V) : Prop :=
  ∃ mid, path = v :: mid ++ [v] ∧ path.IsChain (Dep load next)

/-- A list of finished nodes: each one comes after the nodes it depends on. -/
structure Postorder (done : List (V × α)) : Prop where
  loaded : ∀ p ∈ done, load p.1 = .ok p.2
  nodup : (done.map Prod.fst).Nodup
  ordered : ∀ before p after, done = before ++ p :: after →
    ∀ w ∈ next p.2, w ∈ before.map Prod.fst

end Search

variable {load : V → Except ε α} {next : α → List V} {cycle : List V → ε} {exhausted : ε}

/-! ## Paths -/

omit [DecidableEq V] in
/-- A node depends on every other node of a closed path at it, and on itself. -/
lemma IsCycle.transGen {v : V} {path : List V} (h : IsCycle load next v path) :
    Relation.TransGen (Dep load next) v v ∧
      ∀ u ∈ path, Relation.ReflTransGen (Dep load next) v u := by
  obtain ⟨mid, rfl, hchain⟩ := h
  have hpairwise := List.isChain_iff_pairwise.1
    (hchain.imp fun _ _ => Relation.TransGen.single (r := Dep load next))
  rw [List.cons_append, List.pairwise_cons] at hpairwise
  refine ⟨hpairwise.1 v (by simp), fun u hu => ?_⟩
  obtain rfl | hu := List.mem_cons.1 hu
  · exact Relation.ReflTransGen.refl
  · exact (hpairwise.1 u hu).to_reflTransGen

/-- The end of a path from a node back to itself is a closed path. -/
lemma isCycle_dropWhile {visiting : List V} {v : V} (hv : v ∈ visiting)
    (hchain : (visiting ++ [v]).IsChain (Dep load next)) :
    IsCycle load next v (visiting.dropWhile (fun u => u ≠ v) ++ [v]) := by
  induction visiting with
  | nil => exact absurd hv List.not_mem_nil
  | cons u visiting ih =>
    by_cases huv : u = v
    · subst huv
      refine ⟨visiting, by simp, ?_⟩
      simpa using hchain
    · have hdrop : (u :: visiting).dropWhile (fun u => u ≠ v) =
          visiting.dropWhile (fun u => u ≠ v) := by
        simp [huv]
      rw [hdrop]
      exact ih ((List.mem_cons.1 hv).resolve_left (Ne.symm huv)) hchain.tail

/-! ## Finished nodes -/

omit [DecidableEq V] in
lemma Postorder.nil : Postorder load next [] where
  loaded := fun p hp => absurd hp List.not_mem_nil
  nodup := List.nodup_nil
  ordered := by
    intro before p after h
    simp at h

omit [DecidableEq V] in
/-- A node whose dependencies are finished is finished next. -/
lemma Postorder.snoc {done : List (V × α)} (h : Postorder load next done) {v : V} {a : α}
    (hload : load v = .ok a) (hv : v ∉ done.map Prod.fst)
    (hnext : ∀ w ∈ next a, w ∈ done.map Prod.fst) : Postorder load next (done ++ [(v, a)]) where
  loaded := by
    intro p hp
    obtain hp | hp := List.mem_append.1 hp
    · exact h.loaded p hp
    · obtain rfl := List.mem_singleton.1 hp
      exact hload
  nodup := by
    rw [List.map_append, List.map_singleton]
    exact List.nodup_append'.2 ⟨h.nodup, by simp, by simpa using hv⟩
  ordered := by
    intro before p after heq w hw
    obtain ⟨after', rfl⟩ | ⟨rfl, hlast⟩ : (∃ after', done = before ++ p :: after') ∨
        (done = before ∧ p = (v, a)) := by
      obtain rfl | ⟨after', q, rfl⟩ := List.eq_nil_or_concat' after
      · obtain ⟨hdone, hp⟩ := List.append_inj' heq rfl
        exact Or.inr ⟨hdone, (List.singleton_inj.1 hp).symm⟩
      · rw [← List.cons_append, ← List.append_assoc] at heq
        obtain ⟨hdone, -⟩ := List.append_inj' heq rfl
        exact Or.inl ⟨after', hdone⟩
    · exact h.ordered before p after' rfl w hw
    · subst hlast
      exact hnext w hw

/-- Everything that a finished node depends on is finished before it. -/
lemma Postorder.idxOf_lt {done : List (V × α)} (h : Postorder load next done) {v w : V}
    (hv : v ∈ done.map Prod.fst) (hdep : Relation.TransGen (Dep load next) v w) :
    w ∈ done.map Prod.fst ∧ (done.map Prod.fst).idxOf w < (done.map Prod.fst).idxOf v := by
  have hstep : ∀ {v w}, v ∈ done.map Prod.fst → Dep load next v w →
      w ∈ done.map Prod.fst ∧ (done.map Prod.fst).idxOf w < (done.map Prod.fst).idxOf v := by
    rintro v w hv ⟨a, hload, hw⟩
    obtain ⟨p, hp, rfl⟩ := List.mem_map.1 hv
    obtain rfl : p.2 = a := Except.ok.inj ((h.loaded p hp).symm.trans hload)
    obtain ⟨before, after, rfl⟩ := List.append_of_mem hp
    have hmem := h.ordered before p after rfl w hw
    refine ⟨by simpa using Or.inl (by simpa using hmem), ?_⟩
    have hnodup := h.nodup
    rw [List.map_append, List.map_cons] at hnodup ⊢
    have hnot : p.1 ∉ before.map Prod.fst := by
      have hdisjoint := (List.nodup_append'.1 hnodup).2.2
      exact fun hin => hdisjoint hin List.mem_cons_self
    rw [List.idxOf_append_of_mem hmem, List.idxOf_append_of_notMem hnot, List.idxOf_cons_self]
    have hlt := List.idxOf_lt_length_iff.2 hmem
    omega
  induction hdep with
  | single hdep => exact hstep hv hdep
  | tail _ hdep ih =>
    obtain ⟨hmem, hlt⟩ := hstep ih.1 hdep
    exact ⟨hmem, hlt.trans ih.2⟩

/-! ## Visiting -/

/-- What a visit that finishes does. -/
structure Visited (load : V → Except ε α) (next : α → List V) (visiting : List V)
    (done : List (V × α)) (targets : List V) (done' : List (V × α)) : Prop where
  postorder : Postorder load next done'
  kept : ∀ v ∈ done.map Prod.fst, v ∈ done'.map Prod.fst
  found : ∀ v ∈ targets, v ∈ done'.map Prod.fst
  reached : ∀ v ∈ done'.map Prod.fst, v ∈ done.map Prod.fst ∨ Reachable load next targets v
  open_ : ∀ v ∈ visiting, v ∉ done'.map Prod.fst

omit [DecidableEq V] in
/-- Visits one after the other. -/
lemma visited_foldlM {f : List (V × α) → V → Except ε (List (V × α))} {visiting : List V}
    (hf : ∀ done v done', f done v = .ok done' → Postorder load next done →
      (∀ u ∈ visiting, u ∉ done.map Prod.fst) → Visited load next visiting done [v] done')
    {targets : List V} {done done' : List (V × α)} (h : targets.foldlM f done = .ok done')
    (hpost : Postorder load next done) (hopen : ∀ u ∈ visiting, u ∉ done.map Prod.fst) :
    Visited load next visiting done targets done' := by
  induction targets generalizing done with
  | nil =>
    obtain rfl := Check.pure_ok.1 h
    exact ⟨hpost, fun _ hv => hv, by simp, fun _ hv => Or.inl hv, hopen⟩
  | cons v targets ih =>
    rw [List.foldlM_cons, Check.bind_ok] at h
    obtain ⟨mid, hmid, h⟩ := h
    have hfirst := hf done v mid hmid hpost hopen
    have hrest := ih h hfirst.postorder hfirst.open_
    refine ⟨hrest.postorder, fun u hu => hrest.kept u (hfirst.kept u hu), ?_, ?_, hrest.open_⟩
    · intro u hu
      obtain rfl | hu := List.mem_cons.1 hu
      · exact hrest.kept u (hfirst.found u (by simp))
      · exact hrest.found u hu
    · intro u hu
      obtain hu | ⟨r, hr, hreach⟩ := hrest.reached u hu
      · obtain hu | ⟨r, hr, hreach⟩ := hfirst.reached u hu
        · exact Or.inl hu
        · obtain rfl := List.mem_singleton.1 hr
          exact Or.inr ⟨r, List.mem_cons_self, hreach⟩
      · exact Or.inr ⟨r, List.mem_cons_of_mem v hr, hreach⟩

/-- A visit that finishes. -/
lemma visit_ok {fuel : ℕ} {visiting : List V} {done done' : List (V × α)} {v : V}
    (h : visit load next cycle exhausted fuel visiting done v = .ok done')
    (hpost : Postorder load next done) (hopen : ∀ u ∈ visiting, u ∉ done.map Prod.fst) :
    Visited load next visiting done [v] done' := by
  induction fuel generalizing visiting done done' v with
  | zero => simp [visit] at h
  | succ fuel ih =>
    unfold visit at h
    split at h
    · next hdone =>
      obtain rfl := Except.ok.inj h
      exact ⟨hpost, fun _ hu => hu, by simpa using hdone, fun _ hu => Or.inl hu, hopen⟩
    next hdone =>
    split at h
    · simp at h
    next hvisiting =>
    simp only [Check.bind_ok, Check.pure_ok] at h
    obtain ⟨a, hload, mid, hmid, rfl⟩ := h
    have hopen' : ∀ u ∈ visiting ++ [v], u ∉ done.map Prod.fst := by
      intro u hu
      obtain hu | hu := List.mem_append.1 hu
      · exact hopen u hu
      · rwa [List.mem_singleton.1 hu]
    have hdeps := visited_foldlM (fun done v done' => ih) hmid hpost hopen'
    have hv : v ∉ mid.map Prod.fst := hdeps.open_ v (by simp)
    have hkeys : ∀ u, u ∈ (mid ++ [(v, a)]).map Prod.fst ↔ u ∈ mid.map Prod.fst ∨ u = v := by
      intro u
      rw [List.map_append, List.mem_append]
      simp
    refine ⟨hdeps.postorder.snoc hload hv hdeps.found, ?_, ?_, ?_, ?_⟩
    · exact fun u hu => (hkeys u).2 (Or.inl (hdeps.kept u hu))
    · intro u hu
      exact (hkeys u).2 (Or.inr (List.mem_singleton.1 hu))
    · intro u hu
      obtain hu | rfl := (hkeys u).1 hu
      · obtain hu | ⟨r, hr, hreach⟩ := hdeps.reached u hu
        · exact Or.inl hu
        · exact Or.inr ⟨v, by simp, hreach.head ⟨a, hload, hr⟩⟩
      · exact Or.inr ⟨u, by simp, Relation.ReflTransGen.refl⟩
    · intro u hu hmem
      obtain hmem | rfl := (hkeys u).1 hmem
      · exact hdeps.open_ u (List.mem_append_left [v] hu) hmem
      · exact hvisiting hu

/-! ## Failing -/

/-- Why a search fails: a node that does not load, or a closed path. -/
def Fails (load : V → Except ε α) (next : α → List V) (cycle : List V → ε) (targets : List V)
    (e : ε) : Prop :=
  (∃ v, Reachable load next targets v ∧ load v = .error e) ∨
    ∃ v path, e = cycle path ∧ IsCycle load next v path ∧ Reachable load next targets v

omit [DecidableEq V] in
lemma Fails.mono {targets targets' : List V} {e : ε} (h : Fails load next cycle targets e)
    (hreach : ∀ v, Reachable load next targets v → Reachable load next targets' v) :
    Fails load next cycle targets' e := by
  obtain ⟨v, hv, hload⟩ | ⟨v, path, he, hcycle, hv⟩ := h
  · exact Or.inl ⟨v, hreach v hv, hload⟩
  · exact Or.inr ⟨v, path, he, hcycle, hreach v hv⟩

omit [DecidableEq V] in
lemma fails_foldlM {f : List (V × α) → V → Except ε (List (V × α))} {targets : List V}
    (hf : ∀ v ∈ targets, ∀ done e, f done v = .error e →
      Fails load next cycle [v] e ∨ e = exhausted) {done : List (V × α)} {e : ε}
    (h : targets.foldlM f done = .error e) : Fails load next cycle targets e ∨ e = exhausted := by
  induction targets generalizing done with
  | nil => simp [pure, Except.pure] at h
  | cons v targets ih =>
    obtain ⟨hv, htargets⟩ := List.forall_mem_cons.1 hf
    rw [List.foldlM_cons] at h
    cases hmid : f done v with
    | error e' =>
      rw [hmid] at h
      obtain rfl : e' = e := Except.error.inj h
      refine (hv done e' hmid).imp_left fun hfails => hfails.mono ?_
      rintro u ⟨r, hr, hreach⟩
      exact ⟨r, by rw [List.mem_singleton.1 hr]; exact List.mem_cons_self, hreach⟩
    | ok mid =>
      rw [hmid] at h
      refine (ih htargets h).imp_left fun hfails => hfails.mono ?_
      rintro u ⟨r, hr, hreach⟩
      exact ⟨r, List.mem_cons_of_mem v hr, hreach⟩

/-- A visit that fails. -/
lemma visit_error {fuel : ℕ} {visiting : List V} {done : List (V × α)} {v : V} {e : ε}
    (h : visit load next cycle exhausted fuel visiting done v = .error e)
    (hchain : (visiting ++ [v]).IsChain (Dep load next)) :
    Fails load next cycle [v] e ∨ e = exhausted := by
  have hself : Reachable load next [v] v := ⟨v, by simp, Relation.ReflTransGen.refl⟩
  induction fuel generalizing visiting done v e with
  | zero => exact Or.inr (Except.error.inj h).symm
  | succ fuel ih =>
    unfold visit at h
    split at h
    · simp at h
    split at h
    · next hvisiting =>
      obtain rfl := Except.error.inj h
      exact Or.inl (Or.inr ⟨v, _, rfl, isCycle_dropWhile hvisiting hchain, hself⟩)
    cases hload : load v with
    | error e' =>
      rw [hload] at h
      obtain rfl : e' = e := Except.error.inj h
      exact Or.inl (Or.inl ⟨v, hself, hload⟩)
    | ok a =>
      rw [hload] at h
      cases hdeps :
        (next a).foldlM (visit load next cycle exhausted fuel (visiting ++ [v])) done with
      | ok mid =>
        have hok : (Except.ok mid >>= fun done => pure (done ++ [(v, a)])) = .error e := hdeps ▸ h
        simp [bind, Except.bind, pure, Except.pure] at hok
      | error e' =>
        have herr : (Except.error e' >>= fun done => pure (done ++ [(v, a)])) = .error e :=
          hdeps ▸ h
        obtain rfl : e' = e := Except.error.inj herr
        refine (fails_foldlM (fun w hw done e he => ih he ?_ ?_) hdeps).imp_left
          fun hfails => hfails.mono ?_
        · refine List.isChain_append.2 ⟨hchain, by simp, ?_⟩
          simpa using ⟨a, hload, hw⟩
        · exact ⟨w, by simp, Relation.ReflTransGen.refl⟩
        · rintro u ⟨r, hr, hreach⟩
          exact ⟨v, by simp, hreach.head ⟨a, hload, hr⟩⟩

/-! ## Ending -/

omit [DecidableEq V] in
/-- An error that no visit raises is not raised by visits one after the other. -/
lemma foldlM_ne {f : List (V × α) → V → Except ε (List (V × α))} {e : ε}
    (hf : ∀ done v, f done v ≠ .error e) (targets : List V) (done : List (V × α)) :
    targets.foldlM f done ≠ .error e := by
  induction targets generalizing done with
  | nil => simp [pure, Except.pure]
  | cons v targets ih =>
    intro h
    rw [List.foldlM_cons] at h
    cases hv : f done v with
    | error e' =>
      rw [hv] at h
      obtain rfl : e' = e := Except.error.inj h
      exact hf done v hv
    | ok mid =>
      rw [hv] at h
      exact ih mid h

section Fuel

variable {nodes : List V} (hnodes : ∀ v a, load v = .ok a → v ∈ nodes)
  (hload : ∀ v, load v ≠ .error exhausted) (hcycle : ∀ path, cycle path ≠ exhausted)

include hnodes hload hcycle

/-- A visit ends when its fuel exceeds the number of nodes that are not on the path to it. -/
lemma visit_ne_exhausted {fuel : ℕ} {visiting : List V} {done : List (V × α)} {v : V}
    (hnodup : visiting.Nodup) (hsub : visiting ⊆ nodes)
    (hfuel : nodes.length < fuel + visiting.length) :
    visit load next cycle exhausted fuel visiting done v ≠ .error exhausted := by
  induction fuel generalizing visiting done v with
  | zero =>
    have hle := (List.subperm_of_subset hnodup hsub).length_le
    omega
  | succ fuel ih =>
    unfold visit
    split
    · simp
    split
    · intro h
      exact hcycle _ (Except.error.inj h)
    next hvisiting =>
    cases hv : load v with
    | error e =>
      intro h
      obtain rfl : e = exhausted := Except.error.inj h
      exact hload v hv
    | ok a =>
      have hnodup' : (visiting ++ [v]).Nodup :=
        List.nodup_append'.2 ⟨hnodup, by simp, by simpa using hvisiting⟩
      have hsub' : visiting ++ [v] ⊆ nodes :=
        List.append_subset.2 ⟨hsub, by simpa using hnodes v a hv⟩
      have hfuel' : nodes.length < fuel + (visiting ++ [v]).length := by
        rw [List.length_append, List.length_singleton]
        omega
      intro h
      cases hdeps :
        (next a).foldlM (visit load next cycle exhausted fuel (visiting ++ [v])) done with
      | ok mid =>
        have hok : (Except.ok mid >>= fun done => pure (done ++ [(v, a)])) = .error exhausted :=
          hdeps ▸ h
        simp [bind, Except.bind, pure, Except.pure] at hok
      | error e =>
        have herr : (Except.error e >>= fun done => pure (done ++ [(v, a)])) = .error exhausted :=
          hdeps ▸ h
        obtain rfl : e = exhausted := Except.error.inj herr
        exact foldlM_ne (fun done w => ih hnodup' hsub' hfuel') (next a) done hdeps

lemma search_ne_exhausted {fuel : ℕ} (hfuel : nodes.length < fuel) (roots : List V) :
    search load next cycle exhausted fuel roots ≠ .error exhausted :=
  foldlM_ne (fun _ _ => visit_ne_exhausted hnodes hload hcycle List.nodup_nil (by simp) (by simpa))
    roots []

end Fuel

/-! ## The search -/

/-- A search that finishes lists the reachable nodes, each one after its dependencies. -/
lemma search_ok {fuel : ℕ} {roots : List V} {done : List (V × α)}
    (h : search load next cycle exhausted fuel roots = .ok done) :
    Postorder load next done ∧ ∀ v, v ∈ done.map Prod.fst ↔ Reachable load next roots v := by
  have hvisited : Visited load next [] [] roots done :=
    visited_foldlM (fun done v done' h hpost hopen => visit_ok h hpost hopen) h Postorder.nil
      (by simp)
  refine ⟨hvisited.postorder, fun v => ⟨fun hv => ?_, ?_⟩⟩
  · exact (hvisited.reached v hv).resolve_left (by simp)
  · rintro ⟨r, hr, hreach⟩
    have hroot := hvisited.found r hr
    obtain rfl | htrans := Relation.reflTransGen_iff_eq_or_transGen.1 hreach
    · exact hroot
    · exact (hvisited.postorder.idxOf_lt hroot htrans).1

/-- A search that finishes has met no cycle. -/
lemma search_acyclic {fuel : ℕ} {roots : List V} {done : List (V × α)}
    (h : search load next cycle exhausted fuel roots = .ok done) {v : V}
    (hv : Reachable load next roots v) : ¬ Relation.TransGen (Dep load next) v v := by
  obtain ⟨hpost, hkeys⟩ := search_ok h
  intro hself
  exact lt_irrefl _ (hpost.idxOf_lt ((hkeys v).2 hv) hself).2

lemma search_error {fuel : ℕ} {roots : List V} {e : ε}
    (h : search load next cycle exhausted fuel roots = .error e) :
    Fails load next cycle roots e ∨ e = exhausted :=
  fails_foldlM (fun _ _ _ _ he => visit_error he (by simp)) h

end DepthFirst

end AgenticMesh
