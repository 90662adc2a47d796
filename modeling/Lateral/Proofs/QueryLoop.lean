import Lateral.Proofs.QueryRecursion
import Lateral.Request.Codec
import Lateral.Schema.ForeignKeys
import Mathlib.Data.List.Chain
import Mathlib.Data.List.Duplicate
import Mathlib.Data.List.Perm.Subperm

/-!
The walk over a query as a loop over a stack of frames, which has no bound of its own. The loop
stops, with the outcome of the bounded walk, unless it comes to a selection that lies in itself
before anything is refused. Then it never stops, and this alone is what the bound reports.
-/

namespace Lateral

namespace Query
open Outcome Relation

inductive Frame where
  | opening (id : Nat)
  | closing (node : Node)

inductive Loop where
  | running (frames : List Frame) (passed : List Event)
  | stopped (outcome : Except Error (List Event))

/-- Where the loop stands when the frames above these have come to an outcome. -/
def Loop.after (frames : List Frame) (passed : List Event) : Except Error (List Event) → Loop
  | .ok events => .running frames (passed ++ events)
  | .error e => .stopped (.error e)

def Loop.Faces (l : Loop) (id : Nat) : Prop :=
  ∃ rest passed, l = .running (.opening id :: rest) passed

namespace Context

/-- One turn of the loop. The children of a selection go on the stack above its end. -/
def turn (ctx : Context) : Loop → Loop
  | .running [] passed => .stopped (.ok passed)
  | .running (.opening id :: rest) passed =>
    match ctx.node id with
    | .ok n => .running (n.joined.map .opening ++ .closing n :: rest) (passed ++ [.enter n])
    | .error e => .stopped (.error e)
  | .running (.closing n :: rest) passed => .running rest (passed ++ [.leave n])
  | .stopped outcome => .stopped outcome

/-- A request without roots, or with an id that is no position, is refused before the loop. -/
def start (ctx : Context) : Loop :=
  match ctx.roots with
  | .ok _ => .running (ctx.request.roots.map .opening) []
  | .error e => .stopped (.error e)

inductive Finishes (ctx : Context) : Nat → Prop where
  | node {id : Nat} {n : Node} (worked : ctx.node id = .ok n)
      (inside : ∀ c ∈ n.joined, Finishes ctx c) : Finishes ctx id

def ComesTo (ctx : Context) (ids : List Nat) (id : Nat) : Prop :=
  ∃ before after, ids = before ++ id :: after ∧ ∀ b ∈ before, ctx.Finishes b

def LeadsTo (ctx : Context) (id inner : Nat) : Prop :=
  ∃ n, ctx.node id = .ok n ∧ ctx.ComesTo n.joined inner

def ComesRound (ctx : Context) : Prop :=
  (∃ roots, ctx.roots = .ok roots) ∧ ∃ root id, ctx.ComesTo ctx.request.roots root ∧
    ReflTransGen ctx.LeadsTo root id ∧ TransGen ctx.LeadsTo id id

variable {ctx : Context}

theorem turns_stopped (outcome : Except Error (List Event)) (k : Nat) :
    ctx.turn^[k] (.stopped outcome) = .stopped outcome :=
  Function.iterate_fixed rfl k

theorem turns_append {j k : Nat} {first middle last : Loop}
    (to_middle : ctx.turn^[j] first = middle) (to_last : ctx.turn^[k] middle = last) :
    ctx.turn^[k + j] first = last := by
  rw [Function.iterate_add_apply, to_middle, to_last]

/-- Whatever lies below these frames, the loop gets through them with this outcome. -/
def Settles (ctx : Context) (frames : List Frame) (outcome : Except Error (List Event)) : Prop :=
  ∀ rest passed, ∃ k, ctx.turn^[k] (.running (frames ++ rest) passed) = .after rest passed outcome

section Settles

variable {frames more : List Frame} {outcome : Except Error (List Event)}

theorem settles_none : ctx.Settles [] (.ok []) := by
  intro rest passed
  refine ⟨0, ?_⟩
  change Loop.running rest passed = .running rest (passed ++ [])
  rw [List.append_nil]

theorem settles_closing (n : Node) : ctx.Settles [.closing n] (.ok [.leave n]) :=
  fun _ _ => ⟨1, rfl⟩

theorem settles_refused {e : Error} (first : ctx.Settles frames (.error e)) :
    ctx.Settles (frames ++ more) (.error e) := by
  intro rest passed
  rw [List.append_assoc]
  exact first (more ++ rest) passed

theorem settles_append {events : List Event} (first : ctx.Settles frames (.ok events))
    (next : ctx.Settles more outcome) :
    ctx.Settles (frames ++ more) ((events ++ ·) <$> outcome) := by
  intro rest passed
  obtain ⟨j, to_more⟩ := first (more ++ rest) passed
  obtain ⟨k, to_rest⟩ := next rest (passed ++ events)
  refine ⟨k + j, ?_⟩
  rw [List.append_assoc, turns_append to_more to_rest]
  cases outcome with
  | error e => rfl
  | ok later => exact congrArg (Loop.running rest) (List.append_assoc ..)

theorem turn_opening {id : Nat} {n : Node} (worked : ctx.node id = .ok n) (rest : List Frame)
    (passed : List Event) : ctx.turn^[1] (.running (.opening id :: rest) passed) =
      .running (n.joined.map .opening ++ .closing n :: rest) (passed ++ [.enter n]) := by
  rw [Function.iterate_one, turn, worked]

theorem settles_opening {id : Nat} {n : Node} (worked : ctx.node id = .ok n)
    (inside : ctx.Settles (n.joined.map .opening ++ [.closing n]) outcome) :
    ctx.Settles [.opening id] ((.enter n :: ·) <$> outcome) := by
  intro rest passed
  obtain ⟨k, through⟩ := inside rest (passed ++ [.enter n])
  rw [List.append_assoc, List.singleton_append] at through
  refine ⟨k + 1, ?_⟩
  rw [List.singleton_append, turns_append (turn_opening worked rest passed) through]
  cases outcome with
  | error e => rfl
  | ok later => exact congrArg (Loop.running rest) (List.append_cons ..).symm

theorem settles_opening_refused {id : Nat} {e : Error} (refused : ctx.node id = .error e) :
    ctx.Settles [.opening id] (.error e) := by
  intro rest passed
  refine ⟨1, ?_⟩
  rw [List.singleton_append, Function.iterate_one, turn, refused]
  rfl

theorem settles_each {ids : List Nat} {f : Nat → Except Error (List Event)}
    (each : ∀ id ∈ ids, RefusedOnly Error.NotEndless (f id) → ctx.Settles [.opening id] (f id))
    (ends : RefusedOnly Error.NotEndless (ids.mapM f)) :
    ctx.Settles (ids.map .opening) (List.flatten <$> ids.mapM f) := by
  induction ids with
  | nil => exact settles_none
  | cons id ids ih =>
    rw [List.mapM_cons] at ends ⊢
    have first := each id (List.mem_cons_self ..) ends.of_bind
    rw [List.map_cons, ← List.singleton_append]
    cases run : f id with
    | error e =>
      rw [run] at first
      exact settles_refused first
    | ok events =>
      rw [run] at first ends
      have ends_others : RefusedOnly Error.NotEndless
          (ids.mapM f >>= fun later => pure (events :: later)) := ends
      have others := ih (fun id member => each id (List.mem_cons_of_mem _ member))
        ends_others.of_bind
      have both := settles_append first others
      cases more : ids.mapM f with
      | error e =>
        rw [more] at both
        exact both
      | ok later =>
        rw [more] at both
        exact both

/-- As long as the bound is not reached, the loop comes to the outcome of the walk. -/
theorem settles_walk {depth id : Nat} (ends : RefusedOnly Error.NotEndless (ctx.walk depth id)) :
    ctx.Settles [.opening id] (ctx.walk depth id) := by
  induction depth generalizing id with
  | zero => exact absurd rfl (refusedOnly_notEndless.mp ends id)
  | succ depth ih =>
    rw [walk] at ends ⊢
    cases worked : ctx.node id with
    | error e => exact settles_opening_refused worked
    | ok n =>
      rw [worked] at ends
      have ends_inside : RefusedOnly Error.NotEndless
          (n.joined.mapM (ctx.walk depth) >>= fun inner =>
            pure (.enter n :: (inner.flatten ++ [.leave n]))) := ends
      have inside := settles_each (fun c _ ends_child => ih ends_child) ends_inside.of_bind
      change ctx.Settles _ (n.joined.mapM (ctx.walk depth) >>= _)
      cases run : n.joined.mapM (ctx.walk depth) with
      | error e =>
        rw [run] at inside
        exact settles_opening worked (settles_refused inside)
      | ok walks =>
        rw [run] at inside
        exact settles_opening worked (settles_append inside (settles_closing n))

theorem settles_finished_each {ids : List Nat}
    (each : ∀ id ∈ ids, ∃ events, ctx.Settles [.opening id] (.ok events)) :
    ∃ events, ctx.Settles (ids.map .opening) (.ok events) := by
  induction ids with
  | nil => exact ⟨[], settles_none⟩
  | cons id ids ih =>
    obtain ⟨events, first⟩ := each id (List.mem_cons_self ..)
    obtain ⟨later, others⟩ := ih fun id member => each id (List.mem_cons_of_mem _ member)
    exact ⟨events ++ later, settles_append first others⟩

theorem settles_finished {id : Nat} (finishes : ctx.Finishes id) :
    ∃ events, ctx.Settles [.opening id] (.ok events) := by
  induction finishes with
  | @node id n worked _ ih =>
    obtain ⟨events, inside⟩ := settles_finished_each ih
    exact ⟨_, settles_opening worked (settles_append inside (settles_closing n))⟩

end Settles

section Rounds

variable {l : Loop} {id inner : Nat}

theorem comesTo_faces {ids : List Nat} (comes : ctx.ComesTo ids id) (rest : List Frame)
    (passed : List Event) :
    ∃ k, (ctx.turn^[k] (.running (ids.map .opening ++ rest) passed)).Faces id := by
  obtain ⟨before, after, rfl, finish⟩ := comes
  obtain ⟨events, settles⟩ :=
    settles_finished_each fun b member => settles_finished (finish b member)
  obtain ⟨k, through⟩ := settles (.opening id :: (after.map .opening ++ rest)) passed
  refine ⟨k, after.map .opening ++ rest, passed ++ events, ?_⟩
  rw [List.map_append, List.append_assoc]
  exact through

theorem leadsTo_faces (leads : ctx.LeadsTo id inner) (faces : l.Faces id) :
    ∃ k, 0 < k ∧ (ctx.turn^[k] l).Faces inner := by
  obtain ⟨n, worked, comes⟩ := leads
  obtain ⟨rest, passed, rfl⟩ := faces
  obtain ⟨k, reached⟩ := comesTo_faces comes (.closing n :: rest) (passed ++ [.enter n])
  refine ⟨k + 1, Nat.succ_pos k, ?_⟩
  rw [turns_append (turn_opening worked rest passed) rfl]
  exact reached

theorem transGen_faces (leads : TransGen ctx.LeadsTo id inner) (faces : l.Faces id) :
    ∃ k, 0 < k ∧ (ctx.turn^[k] l).Faces inner := by
  induction leads with
  | single leads => exact leadsTo_faces leads faces
  | tail _ leads ih =>
    obtain ⟨j, some_turns, middle⟩ := ih
    obtain ⟨k, _, last⟩ := leadsTo_faces leads middle
    refine ⟨k + j, by omega, ?_⟩
    rw [turns_append rfl rfl]
    exact last

/-- However often the loop has come to a selection in itself, it comes to it once more. -/
theorem faces_again (round : TransGen ctx.LeadsTo id id) (faces : l.Faces id) (m : Nat) :
    ∃ k, m ≤ k ∧ (ctx.turn^[k] l).Faces id := by
  induction m with
  | zero => exact ⟨0, Nat.le_refl 0, faces⟩
  | succ m ih =>
    obtain ⟨j, enough, reached⟩ := ih
    obtain ⟨k, some_turns, again⟩ := transGen_faces round reached
    refine ⟨k + j, by omega, ?_⟩
    rw [turns_append rfl rfl]
    exact again

theorem stopped_stays {k m : Nat} {outcome : Except Error (List Event)}
    (stops : ctx.turn^[k] l = .stopped outcome) (later : k ≤ m) :
    ctx.turn^[m] l = .stopped outcome := by
  obtain ⟨j, rfl⟩ : ∃ j, m = j + k := ⟨m - k, by omega⟩
  rw [turns_append stops rfl, turns_stopped]

theorem comesRound_never_stops (round : ctx.ComesRound) (k : Nat)
    (outcome : Except Error (List Event)) : ctx.turn^[k] ctx.start ≠ .stopped outcome := by
  intro stops
  obtain ⟨⟨roots, checked⟩, root, id, comes, leads, round⟩ := round
  have begins : ctx.start = .running (ctx.request.roots.map .opening ++ []) [] := by
    rw [start, checked, List.append_nil]
  obtain ⟨i, at_root⟩ := comesTo_faces comes [] []
  rw [← begins] at at_root
  have at_id : ∃ j, (ctx.turn^[j] (ctx.turn^[i] ctx.start)).Faces id := by
    rcases reflTransGen_iff_eq_or_transGen.mp leads with rfl | leads
    · exact ⟨0, at_root⟩
    · obtain ⟨j, _, reached⟩ := transGen_faces leads at_root
      exact ⟨j, reached⟩
  obtain ⟨j, at_id⟩ := at_id
  -- Had the loop stopped at turn k, it could not face the selection at a turn after it.
  obtain ⟨m, enough, rest, passed, running⟩ := faces_again round at_id k
  have stopped : ctx.turn^[m + (j + i)] ctx.start = .stopped outcome :=
    stopped_stays stops (by omega)
  rw [turns_append (turns_append rfl rfl) running] at stopped
  cases stopped

end Rounds

section Bound

theorem walk_finishes {depth id : Nat} {events : List Event}
    (run : ctx.walk depth id = .ok events) : ctx.Finishes id := by
  induction depth generalizing id events with
  | zero => cases run
  | succ depth ih =>
    simp only [walk, bind_eq_ok] at run
    obtain ⟨n, worked, inner, walks, -⟩ := run
    refine .node worked ?_
    intro c member
    obtain ⟨events, -, walked⟩ := mapM_mem walks member
    exact ih walked

theorem walks_comeTo {depth last : Nat} {ids : List Nat}
    (run : ids.mapM (ctx.walk depth) = .error (.endlessSelection last)) :
    ∃ id, ctx.ComesTo ids id ∧ ctx.walk depth id = .error (.endlessSelection last) := by
  obtain ⟨before, id, after, split, walked, endless⟩ := mapM_eq_error run
  refine ⟨id, ⟨before, after, split, ?_⟩, endless⟩
  intro b member
  obtain ⟨events, run⟩ := walked b member
  exact walk_finishes run

/-- A walk that reaches its bound has gone down a chain of that many selections. -/
theorem walk_chain {depth id last : Nat}
    (run : ctx.walk depth id = .error (.endlessSelection last)) :
    ∃ path, path.length = depth ∧ (id :: path).IsChain ctx.LeadsTo := by
  induction depth generalizing id with
  | zero => exact ⟨[], rfl, .singleton id⟩
  | succ depth ih =>
    rw [walk] at run
    rcases bind_eq_error.mp run with refused | ⟨n, worked, run⟩
    · exact absurd refused (refusedOnly_notEndless.mp (ctx.node_ends id) last)
    · rcases bind_eq_error.mp run with inside | ⟨walks, _, returned⟩
      · obtain ⟨c, comes, run⟩ := walks_comeTo inside
        obtain ⟨path, long, chain⟩ := ih run
        exact ⟨c :: path, congrArg (· + 1) long, .cons_cons ⟨n, worked, comes⟩ chain⟩
      · cases returned

theorem leadsTo_known (placed : ctx.request.Positioned) {id inner : Nat}
    (leads : ctx.LeadsTo id inner) : inner < ctx.request.selections.length := by
  obtain ⟨n, worked, before, after, joined, -⟩ := leads
  obtain ⟨found, made, -⟩ := node_found worked
  have known := nodeOf_selection placed (selection_eq_ok.mp made.selection) worked
  have member : inner ∈ n.joined := by
    rw [joined]
    exact List.mem_append_cons_self
  rw [known.joined] at member
  have joins := (List.mem_filter.mp member).2
  have found : ctx.request.selections[inner]?.isSome := Option.isSome_of_any joins
  simpa using found

/-- A chain of more ids than there are selections holds one of them twice. -/
theorem chain_comes_round (placed : ctx.request.Positioned) {id : Nat} {path : List Nat}
    (known : id < ctx.request.selections.length)
    (long : path.length = ctx.request.selections.length)
    (chain : (id :: path).IsChain ctx.LeadsTo) :
    ∃ twice, ReflTransGen ctx.LeadsTo id twice ∧ TransGen ctx.LeadsTo twice twice := by
  have ordered : (id :: path).Pairwise (TransGen ctx.LeadsTo) :=
    (chain.imp fun _ _ => TransGen.single).pairwise
  have below : ∀ x ∈ path, TransGen ctx.LeadsTo id x := (List.pairwise_cons.mp ordered).1
  have bounded : id :: path ⊆ List.range ctx.request.selections.length := by
    intro x member
    rw [List.mem_range]
    rcases List.mem_cons.mp member with rfl | member
    · exact known
    · obtain ⟨y, -, leads⟩ := TransGen.tail'_iff.mp (below x member)
      exact leadsTo_known placed leads
  -- One id more than there are positions, and every id of the chain is a position.
  have repeated : ¬ (id :: path).Nodup := by
    intro distinct
    have fits := (List.subperm_of_subset distinct bounded).length_le
    rw [List.length_cons, List.length_range] at fits
    omega
  obtain ⟨twice, duplicate⟩ := List.exists_duplicate_iff_not_nodup.mpr repeated
  have both := ordered.sublist (List.duplicate_iff_sublist.mp duplicate)
  refine ⟨twice, ?_, List.rel_of_pairwise_cons both (List.mem_singleton_self twice)⟩
  rcases List.mem_cons.mp duplicate.mem with rfl | member
  · exact .refl
  · exact (below twice member).to_reflTransGen

theorem roots_known {roots : List Selection} (checked : ctx.roots = .ok roots) {id : Nat}
    (member : id ∈ ctx.request.roots) : id < ctx.request.selections.length := by
  unfold Context.roots at checked
  simp only [check_eq_ok, bind_eq_ok] at checked
  obtain ⟨-, ⟨⟩, -, each⟩ := checked
  obtain ⟨s, -, found⟩ := mapM_mem each member
  exact (List.getElem?_eq_some_iff.mp (selection_eq_ok.mp found)).1

theorem events_endless {roots : List Selection} {last : Nat} (checked : ctx.roots = .ok roots)
    (run : ctx.events = .error (.endlessSelection last)) : ctx.ComesRound := by
  rcases bind_eq_error.mp run with walks | ⟨inner, _, returned⟩
  · obtain ⟨root, comes, run⟩ := walks_comeTo walks
    obtain ⟨path, long, chain⟩ := walk_chain run
    have listed : root ∈ ctx.request.roots := by
      obtain ⟨before, after, split, -⟩ := comes
      rw [split]
      exact List.mem_append_cons_self
    obtain ⟨twice, leads, round⟩ :=
      chain_comes_round (roots_positioned checked) (roots_known checked listed) long chain
    exact ⟨⟨roots, checked⟩, root, twice, comes, leads, round⟩
  · cases returned

end Bound

section Whole

def outcome (ctx : Context) : Except Error (List Event) := do
  let _ ← ctx.roots
  ctx.events

theorem roots_ends : RefusedOnly Error.NotEndless ctx.roots := by
  unfold Context.roots
  have checked (position : Nat) (selections : List Selection) :
      RefusedOnly Error.NotEndless (checkPositions position selections) := by
    induction selections generalizing position with
    | nil => exact .ok ()
    | cons s rest ih =>
      unfold checkPositions
      split
      · exact ih (position + 1)
      · exact .error fun _ => Error.noConfusion
  split
  · exact .error fun _ => Error.noConfusion
  · refine (checked 0 _).bind fun _ _ => ?_
    exact RefusedOnly.mapM fun id _ => ctx.selection_ends id

def written (ctx : Context) (b : Bindings) (outcome : Except Error (List Event)) :
    Except Error (String × SkipMask) := do
  let events ← outcome
  let roots ← ctx.roots
  return (ctx.header roots ++ (eventsSql roots.length events).fill b ++ ctx.trailer roots,
    skipped events)

theorem write_eq_written {b : Bindings} : ctx.write b = ctx.written b ctx.outcome := by
  rw [write_eq_fill]
  unfold compile written outcome
  cases checked : ctx.roots with
  | error e => rfl
  | ok roots =>
    change _ <$> (ctx.events >>= _) = (ctx.events >>= _)
    cases ctx.events with
    | error e => rfl
    | ok events =>
      refine congrArg (fun sql => Except.ok (sql, skipped events)) ?_
      simp only [Template.fill_append, Template.fill_text]

theorem write_endless_iff {b : Bindings} (last : Nat) :
    ctx.write b = .error (.endlessSelection last) ↔
      ctx.outcome = .error (.endlessSelection last) := by
  rw [write_eq_written, written]
  unfold outcome
  cases ctx.roots with
  | error e => exact ⟨fun run => congrArg _ (Except.error.inj run),
      fun run => congrArg _ (Except.error.inj run)⟩
  | ok roots =>
    change (ctx.events >>= _) = _ ↔ ctx.events = _
    rw [bind_eq_error]
    constructor
    · rintro (run | ⟨events, _, returned⟩)
      · exact run
      · cases returned
    · exact .inl

theorem outcome_endless {last : Nat} (run : ctx.outcome = .error (.endlessSelection last)) :
    ctx.ComesRound := by
  rcases bind_eq_error.mp run with refused | ⟨roots, checked, run⟩
  · exact absurd refused (refusedOnly_notEndless.mp roots_ends last)
  · exact events_endless checked run

theorem outcome_stops (ends : RefusedOnly Error.NotEndless ctx.outcome) :
    ∃ k, ctx.turn^[k] ctx.start = .stopped ctx.outcome := by
  unfold outcome start at *
  cases checked : ctx.roots with
  | error e => exact ⟨0, rfl⟩
  | ok roots =>
    rw [checked] at ends
    have ends_events : RefusedOnly Error.NotEndless
        (ctx.request.roots.mapM (ctx.walk ctx.request.selections.length) >>=
          fun walks => pure walks.flatten) := ends
    have settles := settles_each (fun id _ ends_root => settles_walk ends_root) ends_events.of_bind
    obtain ⟨k, through⟩ := settles [] []
    rw [List.append_nil] at through
    change ∃ k, ctx.turn^[k] _ = .stopped ctx.events
    unfold events
    cases run : ctx.request.roots.mapM (ctx.walk ctx.request.selections.length) with
    | error e =>
      rw [run] at through
      exact ⟨k, through⟩
    | ok walks =>
      rw [run] at through
      exact ⟨1 + k, turns_append through rfl⟩

end Whole

end Context

end Query

/-- The loop over the frames of a query stops, unless it comes to a selection that lies in itself
before anything is refused. Where it stops, the outcome is that of the query; where it does not,
the query is reported as endless. -/
theorem query_loop_stops_iff (ctx : Query.Context) (b : Bindings) :
    ((∃ k outcome, ctx.turn^[k] ctx.start = .stopped outcome) ↔ ¬ ctx.ComesRound) ∧
    (∀ k outcome, ctx.turn^[k] ctx.start = .stopped outcome →
      outcome = ctx.outcome ∧ ctx.write b = ctx.written b outcome) ∧
    (ctx.ComesRound ↔ ∃ last, ctx.write b = .error (.endlessSelection last)) := by
  have stops (apart : ¬ ctx.ComesRound) : ∃ k, ctx.turn^[k] ctx.start = .stopped ctx.outcome := by
    refine Query.Context.outcome_stops (refusedOnly_notEndless.mpr fun last run => apart ?_)
    exact Query.Context.outcome_endless run
  refine ⟨⟨?_, ?_⟩, ?_, ?_, ?_⟩
  · rintro ⟨k, outcome, stopped⟩ round
    exact Query.Context.comesRound_never_stops round k outcome stopped
  · intro apart
    obtain ⟨k, stopped⟩ := stops apart
    exact ⟨k, ctx.outcome, stopped⟩
  · intro k outcome stopped
    have apart : ¬ ctx.ComesRound := fun round =>
      Query.Context.comesRound_never_stops round k outcome stopped
    obtain ⟨j, same⟩ := stops apart
    have first := Query.Context.stopped_stays stopped (Nat.le_max_left k j)
    have second := Query.Context.stopped_stays same (Nat.le_max_right k j)
    rw [first] at second
    cases second
    exact ⟨rfl, Query.Context.write_eq_written⟩
  · intro round
    by_contra none_endless
    have ends : RefusedOnly Error.NotEndless ctx.outcome :=
      refusedOnly_notEndless.mpr fun last run =>
        none_endless ⟨last, (Query.Context.write_endless_iff last).mpr run⟩
    obtain ⟨k, stopped⟩ := Query.Context.outcome_stops ends
    exact Query.Context.comesRound_never_stops round k ctx.outcome stopped
  · rintro ⟨last, run⟩
    exact Query.Context.outcome_endless ((Query.Context.write_endless_iff last).mp run)

def humanCatalog : Catalog where
  tables := [{ name := "humans" }]
  columns := [[
    { id := 1, name := "id", sqlType := "bigint", primaryKey := true },
    { id := 2, name := "parent_id", sqlType := "bigint", target := "humans", targetIds := [1] }]]

def humansInHumans : Json := .obj [
  ("operation", .str "query"),
  ("selects", .arr [.obj [("table", .str "humans"), ("children", .arr [.int 0])]]),
  ("roots", .arr [.int 0])]

theorem humansInHumans_never_stops :
    ∃ schema request, Schema.ofCatalog humanCatalog {} = .ok schema ∧
      Request.ofJson humansInHumans = .ok request ∧
      ∀ k outcome, (Query.Context.mk schema 20 request none).turn^[k]
        (Query.Context.mk schema 20 request none).start ≠ .stopped outcome := by
  have read : Request.ofJson humansInHumans = .ok
      ⟨.query, [{ table := "humans", children := [0] }], [0], none⟩ := rfl
  have reported : ((Schema.ofCatalog humanCatalog {}).map fun schema =>
      (Query.Context.mk schema 20
        ⟨.query, [{ table := "humans", children := [0] }], [0], none⟩ none).write {}) =
        .ok (.error (.endlessSelection 0)) := by
    decide +kernel
  obtain ⟨schema, built, reported⟩ := Outcome.map_eq_ok.mp reported
  refine ⟨schema, _, built, read, Query.Context.comesRound_never_stops ?_⟩
  exact Query.Context.outcome_endless ((Query.Context.write_endless_iff 0).mp reported)

end Lateral
