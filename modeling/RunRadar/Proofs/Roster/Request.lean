import RunRadar.Filter.Catalog
import RunRadar.Proofs.Scan.Failure
import RunRadar.Roster.Basic

/-!
# RunRadar.Proofs.Roster.Request

**Requests that store radars**: to add one, to change one, and to add those that a new project is
offered. Whatever the requests and the replies of the database, every tree in a statement that is
sent is well-formed (`RosterRequest.stores_only_trees`), for a request is looked through before
anything is sent. So no scan fails for a malformed tree because of what is stored here.

What a statement binds for the trees of a radar is read off the places of its parameters, which are
the same in the statement that adds a radar and in the one that changes one
(`Sql.Statement.boundTree?`).
-/

namespace RunRadar

open RunRadar.Action

/-! ### Trees of requests -/

/-- The first malformed one of some trees. -/
def firstMalformed? : List (RadarTree × Json) → Option InvalidTree
  | [] => none
  | (tree, value) :: rest =>
    match Tree.ofJson value with
    | .ok _ => firstMalformed? rest
    | .error fault => some ⟨tree, fault⟩

theorem firstMalformed?_eq_none_iff {trees : List (RadarTree × Json)} :
    firstMalformed? trees = none ↔ ∀ entry ∈ trees, ∃ t, Tree.ofJson entry.2 = .ok t := by
  induction trees with
  | nil => simp [firstMalformed?]
  | cons entry rest ih =>
      obtain ⟨tree, value⟩ := entry
      cases hvalue : Tree.ofJson value <;> simp [firstMalformed?, hvalue, ih]

/-- The trees of a draft, the scope first. -/
def RadarDraft.trees (draft : RadarDraft) : List (RadarTree × Json) :=
  [(.view, draft.view), (.checks, draft.checks)]

/-- The trees that a change gives, the scope first. -/
def RadarChange.trees (change : RadarChange) : List (RadarTree × Json) :=
  (change.view.map (Prod.mk .view)).toList ++ (change.checks.map (Prod.mk .checks)).toList

/-- What a check of several trees comes to. -/
def checked (trees : List (RadarTree × Json)) : Except InvalidTree Unit :=
  match firstMalformed? trees with
  | none => .ok ()
  | some fault => .error fault

theorem checked_cons (tree : RadarTree) (value : Json) (rest : List (RadarTree × Json)) :
    checked ((tree, value) :: rest) =
      match tree.check value with
      | .error fault => .error fault
      | .ok () => checked rest := by
  unfold checked RadarTree.check
  cases hvalue : Tree.ofJson value <;> simp [firstMalformed?, hvalue]

theorem RadarDraft.validate_eq (draft : RadarDraft) : draft.validate = checked draft.trees := by
  rw [trees, checked_cons, checked_cons, validate]
  cases RadarTree.view.check draft.view with
  | error fault => rfl
  | ok _ => cases RadarTree.checks.check draft.checks <;> rfl

theorem RadarChange.validate_eq (change : RadarChange) :
    change.validate = checked change.trees := by
  obtain ⟨description, view, checks⟩ := change
  have hchecks : RadarTree.checks.checkGiven checks =
      checked (checks.map (Prod.mk .checks)).toList := by
    cases checks with
    | none => rfl
    | some value =>
        rw [Option.map_some, Option.toList_some, checked_cons, RadarTree.checkGiven]
        cases RadarTree.checks.check value <;> rfl
  rw [validate, trees, hchecks]
  cases view with
  | none => rfl
  | some value =>
      rw [Option.map_some, Option.toList_some, List.singleton_append, checked_cons]
      rfl

/-! ### Statements -/

namespace Sql

/-- The place of a tree among the parameters of a statement that adds or changes a radar. -/
def treePlace : RadarTree → Nat
  | .view => 3
  | .checks => 4

/-- What a statement that adds or changes a radar binds for one of its trees, unless it is null. -/
def Statement.boundTree? (statement : Statement) (tree : RadarTree) : Option Json :=
  match statement.parameters[treePlace tree]? with
  | some (.json value) => some value
  | _ => none

/-- A statement that adds a radar or changes one, and the trees that it binds are well-formed. -/
inductive StoresTrees : Statement → Prop
  | added {view checks : Json} (project : Uuid) (owner : Option Uuid) (description : Option String)
    (hview : ∃ t, Tree.ofJson view = .ok t) (hchecks : ∃ t, Tree.ofJson checks = .ok t) :
    StoresTrees (createRadar project owner description view checks)
  | changed {view checks : Option Json} (project id : Uuid) (description : Option String)
    (hview : ∀ v, view = some v → ∃ t, Tree.ofJson v = .ok t)
    (hchecks : ∀ v, checks = some v → ∃ t, Tree.ofJson v = .ok t) :
    StoresTrees (updateRadar project id description view checks)

variable {project id : Uuid} {owner : Option Uuid} {description : Option String}

theorem boundTree?_createRadar (view checks : Json) (tree : RadarTree) :
    (createRadar project owner description view checks).boundTree? tree =
      some (match tree with | .view => view | .checks => checks) := by
  cases tree <;> rfl

theorem boundTree?_updateRadar (view checks : Option Json) (tree : RadarTree) :
    (updateRadar project id description view checks).boundTree? tree =
      match tree with | .view => view | .checks => checks := by
  cases tree with
  | view => cases view <;> rfl
  | checks => cases checks <;> rfl

/-- Such a statement binds nothing else for a tree. -/
theorem StoresTrees.exists_ofJson {statement : Statement} (h : StoresTrees statement)
    {tree : RadarTree} {v : Json} (hv : statement.boundTree? tree = some v) :
    ∃ t, Tree.ofJson v = .ok t := by
  cases h with
  | added project owner description hview hchecks =>
      rw [boundTree?_createRadar] at hv
      cases tree <;> cases hv <;> assumption
  | changed project id description hview hchecks =>
      rw [boundTree?_updateRadar] at hv
      cases tree with
      | view => exact hview v hv
      | checks => exact hchecks v hv

end Sql

/-! ### Requests -/

namespace Roster

/-- A statement is put behind those sent before, and using the reply sends nothing. -/
theorem sent_ask_bind {α β : Type} {statement : Sql.Statement} {use : Reply → Except StoreError α}
    {f : Except RosterError α → Action Session β}
    (hf : ∀ answer e, (f answer e).2.store.sent = e.store.sent) (e : Engine Session) :
    ((ask statement use >>= f) e).2.store.sent = e.store.sent ++ [statement] :=
  (hf _ _).trans (Session.sent_ask statement use e.store)

/-- Only statements that store well-formed trees have been sent. -/
def SentTrees (e : Engine Session) : Prop := ∀ st ∈ e.store.sent, Sql.StoresTrees st

section Drafts

variable (draft : RadarDraft) (project : Uuid) (owner : Option Uuid)

/-- The statement that stores a draft. -/
def addition : Sql.Statement :=
  Sql.createRadar project owner draft.description draft.view draft.checks

variable {draft}

/-- A draft with a malformed tree is rejected, and nothing happens. -/
theorem add_of_malformed {fault : InvalidTree} (h : firstMalformed? draft.trees = some fault)
    (e : Engine Session) : add project owner draft e = (.error (.invalid fault), e) := by
  rw [add, draft.validate_eq, checked, h]
  rfl

/-- Any other draft is sent. -/
theorem sent_add (h : firstMalformed? draft.trees = none) (e : Engine Session) :
    (add project owner draft e).2.store.sent =
      e.store.sent ++ [addition draft project owner] := by
  rw [add, draft.validate_eq, checked, h]
  exact sent_ask_bind (by rintro (err | radar) e <;> rfl) e

/-- Adding a radar sends a statement that stores well-formed trees, or none. -/
theorem keeps_add : Keeps SentTrees (add project owner draft) := by
  intro e he
  cases hfirst : firstMalformed? draft.trees with
  | some fault =>
      rw [add_of_malformed project owner hfirst]
      exact he
  | none =>
      have htrees := firstMalformed?_eq_none_iff.mp hfirst
      rw [SentTrees, sent_add project owner hfirst]
      refine List.forall_mem_append.mpr ⟨he, List.forall_mem_singleton.mpr ?_⟩
      exact .added project owner draft.description (htrees _ List.mem_cons_self)
        (htrees _ (List.mem_cons_of_mem _ List.mem_cons_self))

end Drafts

section Changes

variable (c : RadarChange) (project id : Uuid)

/-- The statement that stores a change. -/
def alteration : Sql.Statement := Sql.updateRadar project id c.description c.view c.checks

variable {c}

/-- A change with a malformed tree is rejected, and nothing happens. -/
theorem change_of_malformed {fault : InvalidTree} (h : firstMalformed? c.trees = some fault)
    (e : Engine Session) : change project id c e = (.error (.invalid fault), e) := by
  rw [change, c.validate_eq, checked, h]
  rfl

/-- Any other change is sent. -/
theorem sent_change (h : firstMalformed? c.trees = none) (e : Engine Session) :
    (change project id c e).2.store.sent = e.store.sent ++ [alteration c project id] := by
  rw [change, c.validate_eq, checked, h]
  exact sent_ask_bind (by rintro (err | _ | radar) e <;> rfl) e

/-- Changing a radar sends a statement that stores well-formed trees, or none. -/
theorem keeps_change : Keeps SentTrees (change project id c) := by
  intro e he
  cases hfirst : firstMalformed? c.trees with
  | some fault =>
      rw [change_of_malformed project id hfirst]
      exact he
  | none =>
      have htrees := firstMalformed?_eq_none_iff.mp hfirst
      rw [SentTrees, sent_change project id hfirst]
      refine List.forall_mem_append.mpr ⟨he, List.forall_mem_singleton.mpr ?_⟩
      refine .changed project id c.description ?_ ?_
      · intro v hv
        exact htrees (.view, v) (by simp [RadarChange.trees, hv])
      · intro v hv
        exact htrees (.checks, v) (by simp [RadarChange.trees, hv])

end Changes

/-- Radars are added one by one, up to the first one that cannot be added. -/
theorem keeps_addAll (project : Uuid) (owner : Option Uuid) (drafts : List RadarDraft) :
    Keeps SentTrees (addAll project owner drafts) := by
  induction drafts with
  | nil => exact keeps_pure _
  | cons draft drafts ih =>
      refine (keeps_add project owner).bind fun r => ?_
      cases r with
      | error err => exact keeps_pure _
      | ok radar => exact ih.bind fun _ => keeps_pure _

end Roster

/-- A request by which trees can be stored. -/
inductive RosterRequest
  | add (project : Uuid) (owner : Option Uuid) (draft : RadarDraft)
  | change (project id : Uuid) (c : RadarChange)
  | seed (project : Uuid) (owner : Option Uuid)

namespace RosterRequest

/-- What a request comes to: the radars that are stored by it. -/
def perform : RosterRequest → Action Session (Except RosterError (List Radar))
  | .add project owner draft => do return (← Roster.add project owner draft).map fun r => [r]
  | .change project id c => do return (← Roster.change project id c).map fun r => [r]
  | .seed project owner => Roster.seed project owner

/-- What requests come to, one after another, whatever has become of those before. -/
def performAll : List RosterRequest → Action Session (List (Except RosterError (List Radar)))
  | [] => pure []
  | request :: requests => do
    let result ← request.perform
    return result :: (← performAll requests)

/-- The trees that come with a request, the scope first. -/
def trees : RosterRequest → List (RadarTree × Json)
  | .add _ _ draft => draft.trees
  | .change _ _ c => c.trees
  | .seed .. => []

/-- The statement that stores what comes with a request. -/
def statement? : RosterRequest → Option Sql.Statement
  | .add project owner draft => some (Roster.addition draft project owner)
  | .change project id c => some (Roster.alteration c project id)
  | .seed .. => none

/-- A request sends statements that store well-formed trees, if any. -/
theorem keeps_perform (request : RosterRequest) : Keeps Roster.SentTrees request.perform := by
  cases request with
  | add project owner draft =>
      rw [perform]
      exact (Roster.keeps_add project owner).bind fun _ => keeps_pure _
  | change project id c =>
      rw [perform]
      exact (Roster.keeps_change project id).bind fun _ => keeps_pure _
  | seed project owner => exact Roster.keeps_addAll project owner RadarDraft.defaults

theorem keeps_performAll (requests : List RosterRequest) :
    Keeps Roster.SentTrees (performAll requests) := by
  induction requests with
  | nil => exact keeps_pure _
  | cons request requests ih =>
      exact (keeps_perform request).bind fun _ => ih.bind fun _ => keeps_pure _

/-- A request with a malformed tree is rejected for the first one, and nothing happens. -/
theorem perform_of_malformed {request : RosterRequest} {fault : InvalidTree}
    (h : firstMalformed? request.trees = some fault) (e : Engine Session) :
    request.perform e = (.error (.invalid fault), e) := by
  cases request with
  | add project owner draft =>
      rw [perform, bind_apply, Roster.add_of_malformed project owner h]
      rfl
  | change project id c =>
      rw [perform, bind_apply, Roster.change_of_malformed project id h]
      rfl
  | seed => cases h

/-- A request without malformed trees is sent. -/
theorem sent_perform {request : RosterRequest} (h : firstMalformed? request.trees = none)
    {st : Sql.Statement} (hst : request.statement? = some st) (e : Engine Session) :
    (request.perform e).2.store.sent = e.store.sent ++ [st] := by
  cases request with
  | add project owner draft =>
      cases hst
      exact Roster.sent_add project owner h e
  | change project id c =>
      cases hst
      exact Roster.sent_change project id h e
  | seed => cases hst

/-- Whatever is requested and replied, all that is sent are statements that add or change radars,
and every tree that they bind is well-formed. So no radar with such trees is given up for a
malformed one. A request with malformed trees is rejected for the first of them and leaves
everything as it was, and one without any is sent. -/
theorem stores_only_trees (requests : List RosterRequest) (replies : List Reply) :
    let e := (performAll requests (.start { replies })).2
    (∀ st ∈ e.store.sent, Sql.StoresTrees st ∧
        ∀ tree v, st.boundTree? tree = some v → ∃ t, Tree.ofJson v = .ok t) ∧
      (∀ radar : Radar, (∃ st ∈ e.store.sent, st.boundTree? .view = some radar.view) →
        (∃ st ∈ e.store.sent, st.boundTree? .checks = some radar.checks) →
        ∀ {σ : Type} (scanner : Scanner σ) (rescan : Scanner.Rescan σ) (engine : Engine σ)
          (id : Uuid) (tree : RadarTree) (fault : TreeError),
          (scanner.scanRadar rescan radar engine).1 ≠ .error (.malformedRadar id tree fault)) ∧
      (∀ (request : RosterRequest) (fault : InvalidTree) (e : Engine Session),
        firstMalformed? request.trees = some fault →
        request.perform e = (.error (.invalid fault), e)) ∧
      ∀ (request : RosterRequest) (st : Sql.Statement) (e : Engine Session),
        firstMalformed? request.trees = none → request.statement? = some st →
        (request.perform e).2.store.sent = e.store.sent ++ [st] := by
  intro e
  have hsent : Roster.SentTrees e :=
    keeps_performAll requests (.start { replies }) (List.forall_mem_nil _)
  refine ⟨fun st hst => ⟨hsent st hst, fun tree v => (hsent st hst).exists_ofJson⟩, ?_,
    fun request fault e h => perform_of_malformed h e,
    fun request st e h hst => sent_perform h hst e⟩
  rintro radar ⟨st, hst, hview⟩ ⟨st', hst', hchecks⟩ σ scanner rescan engine id tree fault
  exact scanner.scanRadar_ne_malformed rescan ((hsent st hst).exists_ofJson hview)
    ((hsent st' hst').exists_ofJson hchecks) engine id tree fault

/-- The radars of a new project are refused by the database at once, checks of a radar are changed,
and a draft is rejected for its scope, although its checks are malformed too. -/
theorem stores_only_trees_mixed :
    let change := RosterRequest.change .nil .nil { checks := some (.string "OR") }
    let draft := RosterRequest.add .nil none ⟨none, .array [.string "XOR"], .null⟩
    let e := (performAll [.seed .nil none, change, draft] (.start { replies := [] })).2
    let radar : Radar := ⟨.nil, .nil, none, none, RadarDraft.modelCalls, .string "OR",
      ⟨0, 0, by decide⟩, none⟩
    let scanner : Scanner Session := ⟨Session.storage, .builtin, 1, .remoteStorage⟩
    e.store.sent.map (fun st => (st.boundTree? .view, st.boundTree? .checks)) =
        [(some RadarDraft.modelCalls, RadarDraft.defaults.head?.map (·.checks)),
          (none, some (.string "OR"))] ∧
      (∀ st ∈ e.store.sent, Sql.StoresTrees st) ∧
      (scanner.scanRadar scanner.scan radar e).1 ≠
          .error (.malformedRadar .nil .checks (.unknownOperator "OR")) ∧
      draft.perform e = (.error (.invalid ⟨.view, .unknownOperator "XOR"⟩), e) ∧
      (change.perform e).2.store.sent =
        e.store.sent ++ [Sql.updateRadar .nil .nil none none (some (.string "OR"))] := by
  intro change draft e radar scanner
  obtain ⟨htrees, hscan, hreject, hsend⟩ :=
    stores_only_trees [.seed .nil none, change, draft] []
  have hviews : e.store.sent.map (fun st => (st.boundTree? .view, st.boundTree? .checks)) =
      [(some RadarDraft.modelCalls, RadarDraft.defaults.head?.map (·.checks)),
        (none, some (.string "OR"))] := rfl
  refine ⟨hviews, fun st hst => (htrees st hst).1, ?_, hreject draft _ e rfl,
    hsend change _ e rfl rfl⟩
  have hview : ∃ st ∈ e.store.sent, st.boundTree? .view = some radar.view :=
    ⟨_, List.mem_cons_self, rfl⟩
  have hchecks : ∃ st ∈ e.store.sent, st.boundTree? .checks = some radar.checks :=
    ⟨_, List.mem_cons_of_mem _ List.mem_cons_self, rfl⟩
  exact hscan radar hview hchecks _ _ e _ _ _

end RosterRequest

end RunRadar
