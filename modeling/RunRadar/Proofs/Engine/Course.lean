import RunRadar.Proofs.Engine.Order
import RunRadar.Proofs.Engine.Reserve
import RunRadar.Proofs.Engine.Trace
import RunRadar.Proofs.Scan.SingleFlight
import RunRadar.Store.Session

/-!
# RunRadar.Proofs.Engine.Course

The **course of an evaluation**: which leaves the interpreter evaluates, in which order, and what
stands on record for each of them. What the leaves come to decides which ones have to be visited,
and how long each of them is waited for decides in which round (`Interpreter.Follows`).

Each leaf is evaluated in one step, from its call to the answer, and scans that an evaluator starts
run in that step. So visits follow on one another (`Interpreter.Visits`), and the record of calls is
read off the leaves. Only the time that passes before an answer is used is left to the pace.
-/

namespace RunRadar

open RunRadar.Action
open RunRadar.Tree (Answers ByPlace Occurrence Turns)

namespace Interpreter

variable {σ : Type} {interpreter : Interpreter σ} {run : Run}

/-! ### Visits -/

/-- A step evaluates the leaf at a place. The leaf comes to its answer there, and is waited for as
long as its call is. -/
structure VisitedBy (interpreter : Interpreter σ) (pace : Pace) (run : Run) (answers : Answers)
    (turns : Turns) (o : Occurrence) (s : EngineStep σ) : Prop where
  answer : (interpreter.evaluateLeaf run o.leaf s.1).1 = answers o.place
  engine : (interpreter.evaluateLeaf run o.leaf s.1).2 = s.2
  waited : turns o.place = pace.turns s.1.calls s.2.calls

/-- From one engine to another, the leaves at some places are evaluated one after the other and come
to the given answers, and nothing else is done to the engine in between. -/
inductive Visits (interpreter : Interpreter σ) (pace : Pace) (run : Run) (answers : Answers)
    (turns : Turns) : Engine σ → List Occurrence → Engine σ → Prop
  | nil (e : Engine σ) : Visits interpreter pace run answers turns e [] e
  | cons {e e₁ e' : Engine σ} {o : Occurrence} {os : List Occurrence}
    (here : interpreter.VisitedBy pace run answers turns o (e, e₁))
    (rest : Visits interpreter pace run answers turns e₁ os e') :
    Visits interpreter pace run answers turns e (o :: os) e'

/-- The steps of some rounds evaluate the leaves at some places, round by round. -/
abbrev Follows (interpreter : Interpreter σ) (pace : Pace) (run : Run) (answers : Answers)
    (turns : Turns) : Rounds Occurrence → Rounds (EngineStep σ) → Prop :=
  List.Forall₂ (List.Forall₂ (interpreter.VisitedBy pace run answers turns))

section Visits

variable {pace : Pace} {answers : Answers} {turns : Turns} {e e' : Engine σ}
  {os : List Occurrence} {xs : Rounds Occurrence} {rs rs' : Rounds (EngineStep σ)}

/-- Steps that follow on one another make visits that do. -/
theorem visits_of_leads {steps : List (EngineStep σ)}
    (h : List.Forall₂ (interpreter.VisitedBy pace run answers turns) os steps)
    (hleads : Task.Leads e steps e') : interpreter.Visits pace run answers turns e os e' := by
  induction h generalizing e with
  | nil =>
      obtain rfl : e = e' := hleads
      exact .nil e
  | @cons o s os steps here _ ih =>
      obtain ⟨rfl, hleads⟩ := hleads
      exact .cons here (ih hleads)

/-- The engine's record grows by what the visited leaves leave there. -/
theorem Visits.exists_records (hrescan : ∀ e, e.calls <+: (interpreter.rescan e).2.calls)
    (h : interpreter.Visits pace run answers turns e os e') :
    ∃ records, e'.calls = e.calls ++ records.flatten ∧
      List.Forall₂ (fun o record => interpreter.Records run o.leaf record) os records := by
  induction h with
  | nil => exact ⟨[], by simp, .nil⟩
  | @cons e e₁ e' o os here _ ih =>
      obtain ⟨record, hrecord, hleaf⟩ := exists_record hrescan run o.leaf e
      obtain ⟨records, hrecords, hleaves⟩ := ih
      have hengine : (interpreter.evaluateLeaf run o.leaf e).2 = e₁ := here.engine
      refine ⟨record :: records, ?_, .cons hleaf hleaves⟩
      rw [hrecords, ← hengine, hrecord, List.flatten_cons, List.append_assoc]

/-- Visits in an operand are visits in the node. -/
theorem Follows.under {i : Nat}
    (h : interpreter.Follows pace run (answers.operand i) (turns.operand i) xs rs) :
    interpreter.Follows pace run answers turns (xs.map (List.map (.under i))) rs := by
  refine List.forall₂_map_left_iff.mpr (h.imp fun x r hx => ?_)
  exact List.forall₂_map_left_iff.mpr (hx.imp fun o s ho => ⟨ho.answer, ho.engine, ho.waited⟩)

/-- Only the places that are visited matter. -/
theorem Follows.congr {answers' : Answers} {turns' : Turns}
    (h : interpreter.Follows pace run answers turns xs rs)
    (heq : ∀ o ∈ xs.flatten, answers o.place = answers' o.place ∧ turns o.place = turns' o.place) :
    interpreter.Follows pace run answers' turns' xs rs := by
  induction h with
  | nil => exact .nil
  | cons hx _ ih =>
      rw [List.flatten_cons, List.forall_mem_append] at heq
      refine .cons ?_ (ih heq.2)
      refine List.Forall₂.imp ?_ ((List.forall₂_and_left _ _).mpr ⟨heq.1, hx⟩)
      rintro o s ⟨⟨hanswer, hturns⟩, ho⟩
      exact ⟨ho.answer.trans hanswer, ho.engine, hturns ▸ ho.waited⟩

/-- Visits in the first of some operands, and in the others unless it stops the node. -/
theorem Follows.operands (op : Connective) (i : Nat) {t : Tree} (ts : List Tree)
    (answers' : Answers) (turns' : Turns)
    (here : interpreter.Follows pace run answers turns (t.rounds answers turns) rs)
    (behind : interpreter.Follows pace run answers' turns'
      (if op.stopsAt (t.result answers) then [[]]
        else Tree.roundsAll op answers' turns' (i + 1) ts) rs') :
    ∃ (both : Answers) (bothTurns : Turns),
      Tree.results both i (t :: ts) = t.result answers :: Tree.results answers' (i + 1) ts ∧
      interpreter.Follows pace run both bothTurns (Tree.roundsAll op both bothTurns i (t :: ts))
        (op.arrange rs rs') := by
  let both := answers.graft i answers'
  let bothTurns := turns.graft i turns'
  have hhere : both.operand i = answers := ByPlace.operand_graft _ _ _
  have hturns : bothTurns.operand i = turns := ByPlace.operand_graft _ _ _
  have hbehind : ∀ k, i + 1 ≤ k →
      answers'.operand k = both.operand k ∧ turns'.operand k = bothTurns.operand k := fun k hk =>
    ⟨(ByPlace.operand_graft_of_ne (Nat.ne_of_gt hk) _ _).symm,
      (ByPlace.operand_graft_of_ne (Nat.ne_of_gt hk) _ _).symm⟩
  refine ⟨both, bothTurns, ?_, ?_⟩
  · rw [Tree.results, hhere, Tree.results_congr fun k hk => (hbehind k hk).1]
  · rw [Tree.roundsAll, ← Tree.roundsAll_congr hbehind]
    refine op.forall₂_arrange (Follows.under ?_) ?_
    · rwa [hhere, hturns]
    · rw [hhere]
      refine behind.congr fun o ho => ?_
      split at ho
      · simp at ho
      · obtain ⟨k, place, hk, hplace⟩ := Tree.exists_place_of_mem_roundsAll ho
        obtain ⟨hanswers, hturns⟩ := hbehind k hk
        rw [hplace]
        exact ⟨congrFun hanswers place, congrFun hturns place⟩

end Visits

section Trees

variable {pace : Pace} {ts : List Tree}
  (operand : ∀ t ∈ ts, ∀ rs r, (interpreter.task pace run t).Traces rs r →
    ∃ (answers : Answers) (turns : Turns), r = t.result answers ∧
      interpreter.Follows pace run answers turns (t.rounds answers turns) rs)

include operand

theorem exists_follows_taskOfAll (i : Nat) {rs : Rounds (EngineStep σ)} {outcomes : List Evaluated}
    (h : (interpreter.taskOfAll pace run ts).Traces rs outcomes) :
    ∃ (answers : Answers) (turns : Turns), outcomes = Tree.results answers i ts ∧
      interpreter.Follows pace run answers turns (Tree.roundsAll .and answers turns i ts) rs := by
  induction ts generalizing i rs outcomes with
  | nil =>
      obtain ⟨rfl, rfl⟩ := Task.traces_pure h
      exact ⟨fun _ => .ok .pass, fun _ => 0, rfl, .cons .nil .nil⟩
  | cons t ts ih =>
      obtain ⟨rs, r, rs', outcomes, here, behind, rfl, rfl⟩ := Task.traces_both h
      obtain ⟨answers, turns, rfl, hhere⟩ := operand t List.mem_cons_self rs r here
      obtain ⟨answers', turns', rfl, hbehind⟩ :=
        ih (fun s hs => operand s (List.mem_cons_of_mem _ hs)) (i + 1) behind
      obtain ⟨both, bothTurns, hboth, hfollows⟩ := hhere.operands .and i ts answers' turns' hbehind
      exact ⟨both, bothTurns, hboth.symm, hfollows⟩

theorem exists_follows_taskUpToPass (i : Nat) {rs : Rounds (EngineStep σ)}
    {found : Except EvalError (Option Outcome)}
    (h : (interpreter.taskUpToPass pace run ts).Traces rs found) :
    ∃ (answers : Answers) (turns : Turns), found = firstPassing (Tree.results answers i ts) ∧
      interpreter.Follows pace run answers turns (Tree.roundsAll .or answers turns i ts) rs := by
  induction ts generalizing i rs found with
  | nil =>
      obtain ⟨rfl, rfl⟩ := Task.traces_pure h
      exact ⟨fun _ => .ok .pass, fun _ => 0, rfl, .cons .nil .nil⟩
  | cons t ts ih =>
      obtain ⟨rs, r, rs', here, behind, rfl⟩ := Task.traces_bind h
      obtain ⟨answers, turns, hr, hhere⟩ := operand t List.mem_cons_self rs r here
      -- where the OR stops, the operands behind are not evaluated and may come to anything
      have stop (hstops : Connective.or.stopsAt r = true) :=
        hhere.operands .or i ts answers turns
          (by rw [← hr, if_pos hstops]; exact List.Forall₂.cons .nil .nil)
      cases r with
      | error err =>
          obtain ⟨rfl, rfl⟩ := Task.traces_pure behind
          obtain ⟨both, bothTurns, hboth, hfollows⟩ := stop rfl
          exact ⟨both, bothTurns, by rw [hboth, ← hr]; rfl, hfollows⟩
      | ok o =>
          by_cases hp : o.passed = true
          · simp only [if_pos hp] at behind
            obtain ⟨rfl, rfl⟩ := Task.traces_pure behind
            obtain ⟨both, bothTurns, hboth, hfollows⟩ := stop hp
            exact ⟨both, bothTurns, by rw [hboth, ← hr, firstPassing, if_pos hp], hfollows⟩
          · simp only [if_neg hp] at behind
            obtain ⟨answers', turns', rfl, hbehind⟩ :=
              ih (fun s hs => operand s (List.mem_cons_of_mem _ hs)) (i + 1) behind
            have hgoes : Connective.or.stopsAt (t.result answers) ≠ true := by
              rw [← hr]
              exact hp
            obtain ⟨both, bothTurns, hboth, hfollows⟩ :=
              hhere.operands .or i ts answers' turns' (by rwa [if_neg hgoes])
            exact ⟨both, bothTurns, by rw [hboth, ← hr, firstPassing, if_neg hp], hfollows⟩

end Trees

/-- A tree comes to what the leaves make of it that have to be visited, and exactly these are
visited, in their rounds. -/
theorem exists_follows {pace : Pace} (t : Tree) {rs : Rounds (EngineStep σ)} {r : Evaluated}
    (h : (interpreter.task pace run t).Traces rs r) :
    ∃ (answers : Answers) (turns : Turns), r = t.result answers ∧
      interpreter.Follows pace run answers turns (t.rounds answers turns) rs := by
  induction t using Tree.operand_induction generalizing rs r with
  | identity op =>
      obtain ⟨rfl, rfl⟩ := Task.traces_pure h
      exact ⟨fun _ => .ok .pass, fun _ => 0, rfl, .cons .nil .nil⟩
  | leaf l =>
      obtain ⟨e, rfl, rfl⟩ := Task.traces_called h
      let step := interpreter.evaluateLeaf run l e
      refine ⟨fun _ => step.1, fun _ => pace.turns e.calls step.2.calls, rfl, ?_⟩
      exact .cons (.cons ⟨rfl, rfl, rfl⟩ .nil) (Rounds.forall₂_replicate_nil _)
  | combine op ts ih =>
      cases op with
      | and =>
          obtain ⟨outcomes, hall, rfl⟩ := Task.traces_map h
          obtain ⟨answers, turns, rfl, hfollows⟩ := exists_follows_taskOfAll ih 0 hall
          exact ⟨answers, turns, rfl, hfollows⟩
      | or =>
          obtain ⟨found, hpass, rfl⟩ := Task.traces_map h
          obtain ⟨answers, turns, rfl, hfollows⟩ := exists_follows_taskUpToPass ih 0 hpass
          refine ⟨answers, turns, ?_, hfollows⟩
          rw [Tree.result, Connective.joinOutcomes, Tree.length_results]

end Interpreter

/-! ### Courses -/

/-- A scan leaves the calls that were made before on record, whether or not it is refused. -/
theorem Scanner.calls_prefix_scanTo {σ : Type} (scanner : Scanner σ) (depth : Nat) (e : Engine σ) :
    e.calls <+: (scanner.scanTo depth e).2.calls := by
  by_cases hrunning : e.flight.running = true
  · have hsame : (scanner.scanTo depth e).2.calls = e.calls := by
      rw [scanTo_of_running scanner depth e hrunning]
    exact hsame ▸ List.prefix_refl _
  · have hidle : e.flight = .idle := congrArg Flight.mk (Bool.eq_false_iff.mpr hrunning)
    cases depth with
    | zero =>
        rw [scanTo, guarded_of_idle _ hidle]
        exact List.prefix_refl _
    | succ depth =>
        rw [scanTo, guarded_of_idle _ hidle]
        have hreaches : scanner.Reaches { e with flight := ⟨true⟩ } _ :=
          stepwise_pass depth _ _ .refl
        obtain ⟨made, hmade, -⟩ := (Reaches.refused hreaches rfl).calls
        exact ⟨made, hmade.symm⟩

namespace Interpreter

/-- Evaluating a tree evaluates some of its leaves, each in one step, and they make of the tree what
it comes to. The record grows by what each of these leaves leaves there: the call that it is good
for, if any, and behind that the calls of scans, where an evaluator starts one.

None of the leaves is evaluated twice, and all of them are if there is no OR in the tree. Behind an
operand of an OR that passes or fails to answer, none is. They are evaluated in document order, but
for leaves that are held up: while the call of a leaf is waited for, leaves behind it in an OR may
be overtaken by those in later operands of an AND around that OR. An evaluator is called only where
storage cannot decide, and without all other evaluators everything would be the same. -/
theorem evaluate_course {σ : Type} (interpreter : Interpreter σ)
    (hrescan : ∀ e, e.calls <+: (interpreter.rescan e).2.calls) (pace : Pace) (run : Run) (t : Tree)
    (e : Engine σ) :
    let reached := (interpreter.evaluateAt pace run t e).2
    (∃ (answers : Answers) (turns : Turns) (records : List (List Call)),
      let order := t.order answers turns
      (interpreter.evaluateAt pace run t e).1 = t.result answers ∧
      interpreter.Visits pace run answers turns e order reached ∧
      reached.calls = e.calls ++ records.flatten ∧
      List.Forall₂ (fun o record => interpreter.Records run o.leaf record) order records ∧
      order.Perm (t.visited answers) ∧
      (t.visited answers).Sublist t.occurrences ∧
      (∀ o o', [o, o'].Sublist order → o'.place < o.place → t.Overtakes turns order o o') ∧
      ((∀ o ∈ order, turns o.place = 0) → order = t.visited answers) ∧
      (t.IsOrFree → order = t.occurrences) ∧
      ∀ place ts k operand, t.nodeAt? place = some (.combine .or ts) → ts[k]? = some operand →
        (∀ o, operand.result (answers.below (place ++ [k])) = .ok o → o.passed = true) →
        ∀ o ∈ order, ∀ j rest, o.place = place ++ j :: rest → j ≤ k) ∧
    t.occurrences.map Occurrence.leaf = t.leaves ∧
    t.occurrences.Pairwise (·.place < ·.place) ∧
    (∀ (l : Leaf) filter id, l.call? interpreter.registry run = some (.consult filter id) →
      ∃ f evaluate, interpreter.registry.lookup? l.id = some f ∧ f.kind = .evaluator evaluate) ∧
    (⟨interpreter.registry.withoutReserve, interpreter.storage, interpreter.rescan⟩ :
      Interpreter σ).evaluateAt pace run t e = interpreter.evaluateAt pace run t e := by
  intro reached
  refine ⟨?_, t.map_leaf_occurrences, t.occurrences_increase,
    fun l _ _ => Leaf.exists_evaluator_of_call?, congrFun (evaluateAt_withoutReserve pace t) e⟩
  obtain ⟨rs, htraces, hleads⟩ := (interpreter.task pace run t).exists_traces_finish e
  obtain ⟨answers, turns, hresult, hfollows⟩ := exists_follows t htraces
  have hvisits : interpreter.Visits pace run answers turns e (t.order answers turns) reached :=
    visits_of_leads (List.rel_flatten hfollows) hleads
  obtain ⟨records, hcalls, hrecords⟩ := hvisits.exists_records hrescan
  refine ⟨answers, turns, records, hresult, hvisits, hcalls, hrecords,
    t.order_perm_visited answers turns, t.visited_sublist answers,
    fun o o' => t.order_overtakes answers turns, Tree.order_eq_visited_of_prompt,
    fun h => Tree.order_eq_occurrences h answers turns, ?_⟩
  intro place ts k operand hnode hk hstops o ho j rest hplace
  have hvisited : o ∈ t.visited answers := (t.order_perm_visited answers turns).mem_iff.mp ho
  refine Tree.le_of_mem_visited hnode hk ?_ hvisited hplace
  cases hr : operand.result (answers.below (place ++ [k])) with
  | error err => rfl
  | ok o => exact hstops o hr

/-- During a pass, an OR over a filter that storage decides, an evaluator that starts a scan, and
one that fails, beside an AND over the latter. The OR stops at the second operand, and the AND goes
on behind the failure. If storage has to be waited for, the AND has its turn in between. -/
theorem evaluate_course_mixed :
    let broken : Evaluator := .steady fun _ params => .error (.failed params.filter "down")
    let either : Filter := ⟨"either", [], .hybrid (fun _ => .ok .never) broken⟩
    let scanner := Scanner.overMemory
      (Registry.ofList [either, Scanner.againFilter, ⟨"broken", [], .evaluator broken⟩]) 1 .atOnce
    let interpreter := scanner.interpreter scanner.scan
    let run := ({} : VirtualRun).runUntil ⟨0, 0, by decide⟩ none
    let e : Engine Memory := { store := {}, flight := ⟨true⟩ }
    let leaf := fun id => Tree.leafOf id .null
    let plain := Tree.combine .and [leaf "broken", leaf "unknown", leaf "either"]
    let t := Tree.combine .and [.combine .or [leaf "either", leaf "again", leaf "broken"], plain]
    (interpreter.evaluateAt .atOnce run t e).2.calls =
      [.runMatches run.id .never, .consult "again" run.id, .rescanned true (.ok .skipped),
       .consult "broken" run.id, .runMatches run.id .never] ∧
    (interpreter.evaluateAt .remoteStorage run t e).2.calls =
      [.runMatches run.id .never, .consult "broken" run.id, .runMatches run.id .never,
       .consult "again" run.id, .rescanned true (.ok .skipped)] ∧
    (∃ (answers : Answers) (turns : Turns) (records : List (List Call)),
      (interpreter.evaluateAt .remoteStorage run t e).2.calls = records.flatten ∧
      List.Forall₂ (fun o record => interpreter.Records run o.leaf record)
        (t.order answers turns) records ∧
      (t.visited answers).Sublist t.occurrences ∧
      ∀ o o', [o, o'].Sublist (t.order answers turns) → o'.place < o.place →
        t.Overtakes turns (t.order answers turns) o o') ∧
    plain.IsOrFree ∧
    ∃ (answers : Answers) (turns : Turns), plain.order answers turns = plain.occurrences := by
  intro broken either scanner interpreter run e leaf plain t
  have hrescan : ∀ e, e.calls <+: (interpreter.rescan e).2.calls := scanner.calls_prefix_scanTo 1
  obtain ⟨⟨answers, turns, records, -, -, hcalls, hrecords, -, hsublist, hovertakes, -⟩, -⟩ :=
    evaluate_course interpreter hrescan .remoteStorage run t e
  obtain ⟨⟨answers', turns', _, -, -, -, -, -, -, -, -, hall, -⟩, -⟩ :=
    evaluate_course interpreter hrescan .remoteStorage run plain e
  have hplain : plain.IsOrFree := by
    refine Tree.isOrFree_and fun t ht => ?_
    obtain ⟨id, -, rfl⟩ : ∃ id ∈ ["broken", "unknown", "either"], leaf id = t := List.mem_map.mp ht
    exact Tree.isOrFree_leaf _
  refine ⟨?_, ?_, ⟨answers, turns, records, hcalls, hrecords, hsublist, hovertakes⟩, hplain,
    answers', turns', hall hplain⟩
  · dsimp +zetaDelta only
    rfl
  · dsimp +zetaDelta only
    rfl

/-- The other operand of an AND is called while a database is waited for. The OR in front of it goes
on behind that, so its second call comes last. No leaves in document order make these calls. -/
theorem later_operand_calls_first :
    let reply : Reply := .rows [.ofList [("exists", .bool false)]]
    let fixed : String → Bool → Filter := fun id passed =>
      ⟨id, [], .evaluator (.steady fun _ _ => .ok ⟨passed, none⟩)⟩
    let push : Filter := ⟨"push", [], .pushdown fun _ => .ok .never⟩
    let registry := Registry.ofList [push, fixed "no" false, fixed "yes" true]
    let interpreter : Interpreter Session := ⟨registry, Session.storage, pure (.ok .skipped)⟩
    let run := ({} : VirtualRun).runUntil ⟨0, 0, by decide⟩ none
    let leaf := fun id => Tree.leafOf id .null
    let t := Tree.combine .and [.combine .or [leaf "push", leaf "no"], leaf "yes"]
    let e : Engine Session := .start { replies := [reply] }
    let calls := (interpreter.evaluateAt .remoteStorage run t e).2.calls
    calls = [.runMatches run.id .never, .consult "yes" run.id, .consult "no" run.id] ∧
      ∀ os : List Occurrence, os.Sublist t.occurrences →
        calls ≠ os.filterMap (·.leaf.call? registry run) := by
  intro reply fixed push registry interpreter run leaf t e calls
  have hcalls : calls = [.runMatches run.id .never, .consult "yes" run.id, .consult "no" run.id] :=
    rfl
  refine ⟨hcalls, fun os hos heq => ?_⟩
  have hdocument : t.occurrences.filterMap (·.leaf.call? registry run) =
      [.runMatches run.id .never, .consult "no" run.id, .consult "yes" run.id] := rfl
  have hsub := hos.filterMap (·.leaf.call? registry run)
  rw [← heq, hcalls, hdocument] at hsub
  have hsame := hsub.eq_of_length rfl
  simp at hsame

end Interpreter

end RunRadar
