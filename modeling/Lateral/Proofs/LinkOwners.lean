import Lateral.Proofs.CompiledWrite
import Lateral.Proofs.FilterCauses
import Lateral.Proofs.WorklistTree
import Lateral.Proofs.WriteOrder
import Lateral.Proofs.WriteOrigins

/-!
Links and the rows that they are for. On the worklist a link knows them only by position: its parent
is the union of its table, and the parent of that are the rows. Once the worklist has been gone
through, no step on this way can fail, the relationship is one that can be linked, and every link
has a filter. The commands of a mutation are therefore never refused for a link.
-/

namespace Lateral
open Mutation Outcome

namespace Mutation

def Item.above? (items : List Item) (i : Item) : Option Item := i.parent.bind fun n => items[n]?

def Item.owner? (items : List Item) (i : Item) : Option (Item × Edge) :=
  ((i.above? items).bind (Item.above? items)).bind fun owner => i.edge.map fun e => (owner, e)

/-- A link has a filter. The union above it lists it and has the same relationship, which is not to
a remote table, and rows stand above the union. -/
structure Item.Linked (items : List Item) (i : Item) : Prop where
  filter : i.filter ≠ none
  owned : ∃ union owner e kind, i.above? items = some union ∧ union.kind = .union ∧
    i.id ∈ union.children ∧ union.edge = some e ∧ i.edge = some e ∧ e.isRemote = false ∧
    union.above? items = some owner ∧ owner.kind = .rows kind ∧ i.owner? items = some (owner, e)

structure Item.Collects (items : List Item) (i : Item) : Prop where
  some_link : i.children ≠ []
  links : ∀ n ∈ i.children, ∃ link, items[n]? = some link ∧ link.kind.isLink = true

section Tree

variable {s : Schema} {d : Draft} {st st' : State}

theorem links_length {e : Edge} {fields : List (String × Json)} {ls : List Link}
    (made : LinksMade s d e st fields ls st') : ls.length = fields.length := by
  induction made with
  | nil => rfl
  | cons _ _ ih => rw [List.length_cons, List.length_cons, ih]

theorem expand_groups_filled {w : Write} (run : expand s d st = .ok (w, st')) :
    (∀ g, w = .links g → g.links ≠ []) ∧ ∀ p g, w.HasBelow p (.links g) → g.links ≠ [] := by
  refine expand_induction (P := fun _ _ w _ => (∀ g, w = .links g → g.links ≠ []) ∧
    ∀ p g, w.HasBelow p (.links g) → g.links ≠ []) ?_ ?_ run
  · intro d e st ls st' _ some_link _ made
    constructor
    · rintro g ⟨⟩ none
      obtain rfl : ls = [] := none
      have length : 0 = d.nested.length := links_length made
      have lower : d.linkCount ≤ d.nested.length := List.countP_le_length
      omega
    · intro p g hangs
      cases hangs
  · intro d st drafts filter st₁ writes st₂ _ _ below
    constructor
    · intro g same
      cases same
    · intro p g hangs
      cases hangs with
      | here member =>
        obtain ⟨_, _, _, _, own, -⟩ := lastFirst_mem below member
        exact own g rfl
      | deeper member inside =>
        obtain ⟨_, _, _, _, -, deeper⟩ := lastFirst_mem below member
        exact deeper p g inside

theorem build_groups {kind : RowKind} {t : Table} {value : Json} {chain : Chain}
    (built : build s kind t value = .ok chain) {p : Rows} {g : LinkGroup}
    (hangs : chain.tree.HasBelow p (.links g)) : g.links ≠ [] ∧ g.edge.isRemote = false := by
  obtain ⟨root, last, -, -, -, -, -, -, run⟩ := build_expanded built
  obtain ⟨f, taken⟩ := build_taken built hangs
  obtain ⟨e, -, own, near⟩ := taken.edge
  cases own
  exact ⟨(expand_groups_filled run).2 p g hangs, near⟩

end Tree

section Layout

variable {items : List Item} {parent : Option Nat} {w v : Write} {p : Rows} {g : LinkGroup}

theorem Laid.owner (laid : Laid items parent w) (hangs : w.HasBelow p v) :
    ∃ above below, items[p.id]? = some (rowsItem p above below) := by
  induction hangs generalizing parent with
  | here =>
    cases laid with
    | rows own _ => exact ⟨_, _, own⟩
  | deeper member _ ih =>
    cases laid with
    | rows _ below => exact ih (below _ member)

theorem Laid.group (laid : Laid items parent w) (hangs : w.HasBelow p (.links g)) :
    ∃ path payload, items[g.id]? = some (groupItem g (some p.id) path payload) ∧
      ∀ l ∈ g.links, items[l.id]? = some (linkItem g.id g.table g.edge path l) := by
  cases laid.inside hangs with
  | links own each => exact ⟨_, _, own, each⟩

theorem Laid.linkOwner (laid : Laid items parent w) (hangs : w.HasBelow p (.links g))
    {path : List String} {l : Link} :
    ∃ above below, items[p.id]? = some (rowsItem p above below) ∧
      (linkItem g.id g.table g.edge path l).owner? items =
        some (rowsItem p above below, g.edge) := by
  obtain ⟨above, below, rows⟩ := laid.owner hangs
  obtain ⟨path', payload, group, -⟩ := laid.group hangs
  refine ⟨above, below, rows, ?_⟩
  simp only [Item.owner?, Item.above?, linkItem, Option.bind_some, group, groupItem, rows,
    Option.map_some]

theorem Laid.linked (laid : Laid items parent w) (hangs : w.HasBelow p (.links g))
    (near : g.edge.isRemote = false) {path : List String} {l : Link} (member : l ∈ g.links) :
    (linkItem g.id g.table g.edge path l).Linked items := by
  obtain ⟨above, below, rows, owner⟩ := laid.linkOwner hangs
  obtain ⟨path', payload, group, -⟩ := laid.group hangs
  exact ⟨Option.some_ne_none _, groupItem g (some p.id) path' payload, rowsItem p above below,
    g.edge, p.kind, group, rfl, List.mem_map_of_mem member, rfl, rfl, near, rows, rfl, owner⟩

theorem Laid.collects (laid : Laid items parent w) (hangs : w.HasBelow p (.links g))
    (filled : g.links ≠ []) {path : List String} {payload : Payload} :
    (groupItem g (some p.id) path payload).Collects items := by
  obtain ⟨path', payload', -, each⟩ := laid.group hangs
  refine ⟨mt List.map_eq_nil_iff.mp filled, ?_⟩
  intro n child
  obtain ⟨l, member, rfl⟩ := List.mem_map.mp child
  exact ⟨_, each l member, rfl⟩

end Layout

section Items

variable {s : Schema} {kind : RowKind} {t : Table} {value : Json} {chain : Chain}

theorem build_laid (built : build s kind t value = .ok chain) :
    ∃ turns items, (turn s)^[turns] (start kind t value) = .stopped (.ok items) ∧
      Laid items none chain.tree ∧ items.length = chain.ids.length := by
  obtain ⟨-, -, -, -, -, read⟩ := build_root built
  obtain ⟨turns, outcome, stops, both⟩ :=
    (build_settles s kind t read).stops fun _ _ laid => laid.1
  rw [built] at both
  cases both with
  | ok related =>
    obtain ⟨w, rfl, -, laid, count⟩ := related
    refine ⟨turns, w.items, ?_, laid, count⟩
    simp only [start, read]
    exact stops

theorem item_cases (built : build s kind t value = .ok chain) {items : List Item}
    (laid : Laid items none chain.tree) (count : items.length = chain.ids.length) {i : Item}
    (member : i ∈ items) :
    (∃ r above below, i = rowsItem r above below) ∨
      ∃ p g, chain.tree.HasBelow p (.links g) ∧
        ((∃ path payload, i = groupItem g (some p.id) path payload) ∨
          ∃ path, ∃ l ∈ g.links, i = linkItem g.id g.table g.edge path l) := by
  obtain ⟨n, found⟩ := List.mem_iff_getElem?.mp member
  have inside : n < chain.ids.length := count ▸ (List.getElem?_eq_some_iff.mp found).1
  have numbered : n ∈ chain.steps.map Step.id :=
    (chain_steps_ids chain).mem_iff.mpr ((build_ids built).mem_iff.mpr (List.mem_range.mpr inside))
  obtain ⟨step, listed, rfl⟩ := List.mem_map.mp numbered
  rcases chain_step_stands listed with rfl | stands
  · cases laid with
    | rows own _ => exact Or.inl ⟨_, _, _, Option.some.inj (found.symm.trans own)⟩
  · cases stands with
    | rows hangs =>
      cases laid.inside hangs with
      | rows own _ => exact Or.inl ⟨_, _, _, Option.some.inj (found.symm.trans own)⟩
    | link hangs among =>
      obtain ⟨path, payload, -, each⟩ := laid.group hangs
      have own := Option.some.inj (found.symm.trans (each _ among))
      exact Or.inr ⟨_, _, hangs, Or.inr ⟨path, _, among, own⟩⟩
    | union hangs =>
      obtain ⟨path, payload, group, -⟩ := laid.group hangs
      have own := Option.some.inj (found.symm.trans group)
      exact Or.inr ⟨_, _, hangs, Or.inl ⟨path, payload, own⟩⟩

end Items

end Mutation

/-- The error is neither of those that are left for links: one without rows to be linked to, and one
to a remote table. -/
def Error.BesidesLinks (e : Error) : Prop :=
  e ≠ .invalidPayload .rootLink ∧ ∀ child parent, e ≠ .unusableEdge child parent .remoteLink

theorem Error.OfFilter.besidesLinks (e : Error) (filter : e.OfFilter) : e.BesidesLinks := by
  constructor
  · rintro rfl
    exact filter
  · rintro child parent rfl
    rcases filter with remote | self
    · cases remote
    · cases self

def Command.linkFilter? : Command → Option Template
  | .attach _ _ _ filter | .detach _ _ _ _ filter | .pick _ filter _ => some filter
  | _ => none

def linkFilters (ctes : List Cte) : List Template :=
  ctes.filterMap fun cte => cte.command.linkFilter?

section Commands

variable (ctx : Context)

theorem link_filters {g : LinkGroup} (near : g.edge.isRemote = false) (owner : Rows) (l : Link) :
    linkFilters <$> ctx.link g owner l =
      (fun filter => [filter]) <$> Filter.sql ctx.schema g.table l.filter := by
  unfold Context.link
  cases kind : g.edge.kind with
  | remote => simp [Edge.isRemote, kind] at near
  | oneToMany =>
    cases Filter.sql ctx.schema g.table l.filter with
    | error e => rfl
    | ok filter => cases l.kind <;> rfl
  | oneToOne => cases Filter.sql ctx.schema g.table l.filter <;> rfl
  | through j =>
    cases Filter.sql ctx.schema g.table l.filter with
    | error e => rfl
    | ok filter => cases l.kind <;> rfl

theorem sql_besidesLinks (t : Table) (f : Filter) :
    RefusedOnly Error.BesidesLinks (f.sql ctx.schema t) :=
  (filter_refused ctx.schema t f).weaken Error.OfFilter.besidesLinks

theorem link_besidesLinks {g : LinkGroup} (near : g.edge.isRemote = false) (owner : Rows)
    (l : Link) : RefusedOnly Error.BesidesLinks (ctx.link g owner l) := by
  refine ⟨fun e run => ?_⟩
  have both := link_filters ctx near owner l
  rw [map_eq_error.mpr run] at both
  exact (sql_besidesLinks ctx g.table l.filter).refusal e (map_eq_error.mp both.symm)

theorem conflict_besidesLinks (columns : List Assignment) :
    RefusedOnly Error.BesidesLinks (ctx.conflict columns) := by
  have targets : RefusedOnly Error.BesidesLinks (ctx.conflictTargets columns) := by
    unfold Context.conflictTargets
    dsimp only
    split
    · refine .bind ?_ fun _ _ => .ok _
      exact (primary_refused _ _).weaken Error.OfFilter.besidesLinks
    · exact .ok _
  unfold Context.conflict
  refine targets.bind fun targets _ => ?_
  split
  · exact .ok _
  · exact .ok _
  · exact (sql_besidesLinks ctx ctx.table _).map.bind fun _ _ => .ok _

theorem insert_besidesLinks (r : Rows) (parent : Option Rows) (columns : List Assignment) :
    RefusedOnly Error.BesidesLinks (ctx.insert r parent columns) := by
  unfold Context.insert
  refine .check (by simp [Error.BesidesLinks]) ?_
  refine .choice ?_ fun conflict => ?_
  · split
    · exact (conflict_besidesLinks ctx columns).map
    · exact .ok none
  · split
    · split <;> exact .ok _
    · exact .ok _

theorem update_besidesLinks (r : Rows) (parent : Option Rows) (columns : List Assignment) :
    RefusedOnly Error.BesidesLinks (ctx.update r parent columns) := by
  have reach : RefusedOnly Error.BesidesLinks (ctx.reach r parent) := by
    unfold Context.reach
    split
    · split
      · exact (sql_besidesLinks ctx r.table _).bind fun _ _ => .ok _
      · exact .ok _
    · refine .bind ?_ fun _ _ => .ok _
      unfold Context.rootFilter
      split
      · exact sql_besidesLinks ctx ctx.table _
      · exact .error (by simp [Error.BesidesLinks])
  unfold Context.update
  refine reach.bind fun _ _ => ?_
  split <;> exact .ok _

theorem settleAll_besidesLinks (steps : List Step) :
    RefusedOnly Error.BesidesLinks (settleAll steps) := by
  refine .mapM fun junction _ => ?_
  split
  · exact .error (by simp [Error.BesidesLinks])
  · exact .ok _

theorem step_besidesLinks {step : Step}
    (near : ∀ g owner l, step = .link g owner l → g.edge.isRemote = false) :
    RefusedOnly Error.BesidesLinks (ctx.step step) := by
  cases step with
  | rows r parent children =>
    unfold Context.step
    dsimp only
    split
    · exact insert_besidesLinks ctx r parent _
    · exact insert_besidesLinks ctx r parent _
    · exact update_besidesLinks ctx r parent _
  | link g owner l => exact link_besidesLinks ctx (near g owner l rfl) owner l
  | union g => exact .ok _

theorem step_union {ctx : Context} {step : Step} {own : List Cte} {cte : Cte} {parts : List String}
    (made : ctx.step step = .ok own) (inside : cte ∈ own) (collects : cte.command = .union parts) :
    ∃ g, step = .union g ∧ parts = g.links.map g.cteName := by
  cases step_made made with
  | union g =>
    cases List.mem_singleton.mp inside
    cases collects
    exact ⟨g, rfl, rfl⟩
  | insertAcross | connectAcross | disconnectAcross =>
    rcases List.mem_pair.mp inside with rfl | rfl <;> cases collects
  | insert | update | read | attach | detach | pick =>
    cases List.mem_singleton.mp inside
    cases collects

end Commands

section Chains

variable {s : Schema} {kind : RowKind} {t : Table} {value : Json} {chain : Chain}

theorem ctes_besidesLinks (built : build s kind t value = .ok chain) (ctx : Context)
    (name : String) : RefusedOnly Error.BesidesLinks (ctx.ctes name chain) := by
  refine .bind (.mapM fun step listed => ?_) fun _ _ => ?_
  · refine step_besidesLinks ctx ?_
    rintro g owner l rfl
    exact (build_groups built (link_step_below listed).1).2
  · exact (settleAll_besidesLinks chain.steps).bind fun _ _ => .ok _

theorem ctes_union_filled (built : build s kind t value = .ok chain) {ctx : Context}
    {name : String} {ctes : List Cte} (commanded : ctx.ctes name chain = .ok ctes) {cte : Cte}
    (member : cte ∈ ctes) {parts : List String} (collects : cte.command = .union parts) :
    parts ≠ [] := by
  rcases mem_ctes commanded member with rfl | ⟨step, listed, own, made, inside⟩ | ⟨_, rfl⟩
  · cases collects
  · obtain ⟨g, rfl, rfl⟩ := step_union made inside collects
    obtain ⟨owner, hangs⟩ := union_step_below listed
    exact mt List.map_eq_nil_iff.mp (build_groups built hangs).1
  · cases collects

end Chains

/-- Whatever is built, the loop ends with items among which every link finds its rows and every
union has links. The steps of links go by these rows, and take what their filters say; no command is
refused for a link, and none collects rows from nowhere. -/
theorem links_find_owners (s : Schema) (kind : RowKind) (t : Table) (value : Json) (chain : Chain)
    (built : build s kind t value = .ok chain) :
    ∃ turns items, (turn s)^[turns] (start kind t value) = .stopped (.ok items) ∧
      (∀ i ∈ items, i.kind.isLink = true → i.Linked items) ∧
      (∀ i ∈ items, i.kind = .union → i.Collects items) ∧
      (∀ g owner l, Step.link g owner l ∈ chain.steps →
        ∃ i rows, items[l.id]? = some i ∧ i.kind = .link l.kind ∧ i.filter = some l.filter ∧
          i.owner? items = some (rows, g.edge) ∧ rows.id = owner.id ∧ rows.table = owner.table ∧
          ∀ ctx : Context, linkFilters <$> ctx.step (.link g owner l) =
            (fun filter => [filter]) <$> Filter.sql ctx.schema g.table l.filter) ∧
      ∀ (ctx : Context) name,
        (∀ e, ctx.ctes name chain = .error e → e.BesidesLinks) ∧
        ∀ ctes, ctx.ctes name chain = .ok ctes →
          ∀ cte ∈ ctes, ∀ parts, cte.command = .union parts → parts ≠ [] := by
  obtain ⟨turns, items, stops, laid, count⟩ := build_laid built
  refine ⟨turns, items, stops, ?_, ?_, ?_, ?_⟩
  · intro i member link
    rcases item_cases built laid count member with
      ⟨r, above, below, rfl⟩ | ⟨p, g, hangs, ⟨path, payload, rfl⟩ | ⟨path, l, among, rfl⟩⟩
    · cases link
    · cases link
    · exact laid.linked hangs (build_groups built hangs).2 among
  · intro i member union
    rcases item_cases built laid count member with
      ⟨r, above, below, rfl⟩ | ⟨p, g, hangs, ⟨path, payload, rfl⟩ | ⟨path, l, among, rfl⟩⟩
    · cases union
    · exact laid.collects hangs (build_groups built hangs).1
    · cases union
  · intro g owner l listed
    obtain ⟨hangs, among⟩ := link_step_below listed
    obtain ⟨path, payload, -, each⟩ := laid.group hangs
    obtain ⟨above, below, -, found⟩ := laid.linkOwner hangs
    refine ⟨_, _, each l among, rfl, rfl, found, rfl, rfl, fun ctx => ?_⟩
    exact link_filters ctx (build_groups built hangs).2 owner l
  · intro ctx name
    refine ⟨(ctes_besidesLinks built ctx name).refusal, ?_⟩
    intro ctes commanded cte member parts collects
    exact ctes_union_filled built commanded member collects

def Step.linkKind? : Step → Option LinkKind
  | .link _ _ l => some l.kind
  | _ => none

def movedData : Json := .obj [
  ("human", .obj [("connect", .obj [("id", .int 1)])]),
  ("canvas", .obj [("connect", .obj [("id", .int 3)]), ("disconnect", .obj [("id", .int 4)])])]

theorem moved_canvas_finds_quiz :
    ∃ t chain, quizSchema.table "quiz" = .ok t ∧
      build quizSchema .update t movedData = .ok chain ∧
      chain.steps.filterMap Step.linkKind? = [.connect, .connect, .disconnect] ∧
      ∃ turns items, (turn quizSchema)^[turns] (start .update t movedData) = .stopped (.ok items) ∧
        ∃ i ∈ items, i.kind = .link .disconnect ∧ i.Linked items := by
  have order : (quizSchema.table "quiz" >>= fun t =>
      (build quizSchema .update t movedData).map fun chain =>
        chain.steps.filterMap Step.linkKind?) = .ok [.connect, .connect, .disconnect] := by
    decide +kernel
  obtain ⟨t, found, order⟩ := bind_eq_ok.mp order
  obtain ⟨chain, built, kinds⟩ := map_eq_ok.mp order
  obtain ⟨turns, items, stops, links, -, steps, -⟩ :=
    links_find_owners quizSchema .update t movedData chain built
  refine ⟨t, chain, found, built, kinds, turns, items, stops, ?_⟩
  have removes : LinkKind.disconnect ∈ chain.steps.filterMap Step.linkKind? := by
    rw [kinds]
    decide
  obtain ⟨step, listed, kind⟩ := List.mem_filterMap.mp removes
  cases step with
  | rows | union => cases kind
  | link g owner l =>
    obtain ⟨i, _, place, own, -⟩ := steps g owner l listed
    rw [Option.some.inj kind] at own
    have member := List.mem_of_getElem? place
    exact ⟨i, member, own, links i member (by rw [own]; rfl)⟩

end Lateral
