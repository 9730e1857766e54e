import HcuAutoOpt.Rounds.Budget
import HcuAutoOpt.Rounds.Replays
import HcuAutoOpt.Rounds.SignoffRecovery

/-!
# Published budget ledgers

A round evidence bundle binds the hash of the budget ledger of its round. Once a bundle
is stored, no reservation of the round is open and its state lets no budget operation
write, except that a formal round may still be reserved for while it waits for its
signoff. In a run without such a reservation (`QuietStep`) the ledger of a published
bundle stays closed (`Store.LedgerClosed`), so its hash is that of the bundle.

The main result is `published_ledger_stays`.
-/

set_option autoImplicit false

namespace HcuAutoOpt

open Foundation

/-! ## Closed ledgers -/

/-- The hash of the ledger of a round, recomputed from its rows. -/
def Store.ledgerHash (env : RoundEnv) (s : Store) (roundId : Uuid) : String :=
  roundBudgetLedgerHash env roundId (s.reservationsOf roundId) (s.ledgerOf roundId)

/-- A round behind its evidence or its end, without an open reservation. -/
structure Store.LedgerClosed (s : Store) (roundId : Uuid) (round : SearchRound) : Prop where
  found : s.searchRounds.find? roundId = some round
  ended : round.state.isTerminal = true ∨ round.state = .awaitingSignoff
  formal : round.state.isScripted = false → round.runMode = .formal
  settled : ∀ row ∈ s.reservationsOf roundId, row.state ≠ .reserved

/-- The budget rows of a round and its bundle are the same. -/
structure Store.SameLedger (s s' : Store) (roundId : Uuid) : Prop where
  reservations : s'.reservationsOf roundId = s.reservationsOf roundId
  ledger : s'.ledgerOf roundId = s.ledgerOf roundId
  bundle : s'.roundEvidenceBundles.find? roundId = s.roundEvidenceBundles.find? roundId

theorem Store.SameLedger.of_rows {s s' : Store} {roundId : Uuid}
    (same : s'.rowsOf roundId = s.rowsOf roundId) : s.SameLedger s' roundId :=
  ⟨congrArg RoundRows.reservations same, congrArg RoundRows.ledger same,
    congrArg RoundRows.evidence same⟩

/-- The round in another state and version, and otherwise as it was. -/
def SearchRound.Moved (round round' : SearchRound) : Prop :=
  { round' with state := round.state, version := round.version } = round

theorem SearchRound.Moved.trans {round round' round'' : SearchRound}
    (first : round.Moved round') (second : round'.Moved round'') : round.Moved round'' := by
  unfold SearchRound.Moved at *
  rw [← first, ← second]

/-- The call stores no new reservation for the round while it waits for its signoff. -/
def Store.QuietFor (s : Store) (roundId : Uuid) (label : Option AnyRoundCall) : Prop :=
  ∀ request entry valid, label = some (.scripted (.reserveRoundBudget request entry valid)) →
    request.roundId = roundId → ∀ round, s.searchRounds.find? roundId = some round →
      round.state = .awaitingSignoff → ∃ row ∈ s.budgetReservations.rows, request.clashes row = true

/-- A step that stores no such reservation. -/
def QuietStep (env : FormalEnv) (roundId : Uuid) (s : Store) (label : Option AnyRoundCall)
    (s' : Store) : Prop :=
  FormalStep env s label s' ∧ s.QuietFor roundId label

/-! ## Moves of a closed round -/

/-- A move behind the evidence or the end of a round writes its budget. -/
theorem RoundMove.of_ended {env : RoundEnv} {p p' : RoundPicture} {action : Option RoundAction}
    (move : RoundMove env p action p')
    (ended : p.round.state.isTerminal = true ∨ p.round.state = .awaitingSignoff)
    (settled : ∀ row ∈ p.rows.reservations, row.state ≠ .reserved) :
    action = none ∧ p.round.state = .awaitingSignoff := by
  have elsewhere : ∀ {state}, p.round.state = state → state.isTerminal = false →
      state ≠ .awaitingSignoff → False := by
    intro state same live apart
    rcases ended with terminal | awaits
    · rw [same, live] at terminal
      cases terminal
    · exact apart (same.symm.trans awaits)
  cases move with
  | join _ state | closeIntake _ state | freeze _ state | closeHoldout _ state
  | compare _ state =>
      exact (elsewhere state rfl (by decide)).elim
  | reveal _ _ state => exact (elsewhere state rfl (by decide)).elim
  | build _ _ _ _ _ accepting =>
      rcases List.mem_pair.mp accepting.2 with state | state <;>
        exact (elsewhere state rfl (by decide)).elim
  | closeSearch _ _ ready =>
      rcases List.mem_pair.mp ready with state | state <;>
        exact (elsewhere state rfl (by decide)).elim
  | complete evidence _ _ path =>
      unfold requireTerminalPath at path
      split at path <;>
        exact (elsewhere (require_eq_ok.mp path).1 rfl (by decide)).elim
  | cancel _ live | reserve _ _ live =>
      rcases ended with terminal | awaits
      · rw [live] at terminal
        cases terminal
      · exact ⟨rfl, awaits⟩
  | settle reservation _ present reserved => exact absurd reserved (settled reservation present)

/-- A move publishes a bundle only as the completion of the round. -/
theorem RoundMove.publishes {env : RoundEnv} {p p' : RoundPicture} {action : Option RoundAction}
    (move : RoundMove env p action p') :
    p'.rows.evidence = p.rows.evidence ∨ ∃ evidence, p'.rows.evidence = some evidence ∧
      evidence.budgetLedgerHash = roundBudgetLedgerHash env p.round.roundId
        p'.rows.reservations p'.rows.ledger ∧
      p'.round.state = .scriptedCompleted ∧
      ∀ row ∈ p'.rows.reservations, row.state ≠ .reserved := by
  cases move with
  | complete evidence _ _ _ settled hashed => exact .inr ⟨evidence, rfl, hashed, rfl, settled⟩
  | join | closeIntake | build | freeze | closeSearch | reveal | closeHoldout | compare | cancel
  | reserve | settle => exact .inl rfl

section Steps

variable {env : FormalEnv} {s s' : Store} {roundId : Uuid} {round : SearchRound}

/-- A quiet call leaves a closed round and its ledger. -/
theorem RoundCall.closed {call : RoundCall} {u : Unit} (owned : s.RoundsOwned)
    (closed : s.LedgerClosed roundId round) (ok : call.run env.toRoundEnv s = .ok (s', u))
    (quiet : s.QuietFor roundId (some (.scripted call))) :
    s'.searchRounds.find? roundId = some round ∧ s.SameLedger s' roundId := by
  have same : s' = s → s'.searchRounds.find? roundId = some round ∧ s.SameLedger s' roundId := by
    rintro rfl
    exact ⟨closed.found, .of_rows rfl⟩
  rcases call.effect owned ok with still | ⟨p, p', moves⟩ | ⟨request, task, valid, created⟩
  · exact same still
  · by_cases own : roundId = call.roundId
    · subst own
      have found := (Store.picture_eq_some.mp moves.before).1
      have rows := (Store.picture_eq_some.mp moves.before).2.2
      cases found.symm.trans closed.found
      have settled : ∀ row ∈ p.rows.reservations, row.state ≠ .reserved := by
        rw [← rows]
        exact closed.settled
      obtain ⟨budget, awaits⟩ := moves.move.of_ended closed.ended settled
      have formal := closed.formal (by rw [awaits]; rfl)
      cases call with
      | addRoundCandidate | closeSearchRoundIntake | recordRoundCandidateBuild
      | freezeSearchRoundArtifactFamily | closeScriptedSearchBarrier | recordScriptedHoldoutReveal
      | closeScriptedHoldoutBarrier | recordScriptedMultipleComparison
      | finalizeScriptedSearchRound => cases budget
      | createSearchRound request valid =>
          obtain ⟨_, ok⟩ := Transaction.silent_eq_ok.mp ok
          rcases createSearchRound_effect owned ok with still | ⟨task, created⟩
          · exact same still
          · cases created.newRound.symm.trans closed.found
      | cancelScriptedSearchRound now roundId reason =>
          obtain ⟨_, ok⟩ := Transaction.silent_eq_ok.mp ok
          simp only [HcuAutoOpt.cancelScriptedSearchRound, Except.bind_eq_ok, requireRow_eq_ok,
            require_eq_ok] at ok
          obtain ⟨_, found', _, scripted, _⟩ := ok
          cases found.symm.trans found'
          rw [formal] at scripted
          cases scripted
      | reserveRoundBudget request entry valid =>
          obtain ⟨row, present, clash⟩ := quiet request entry valid rfl rfl _ found awaits
          obtain ⟨_, ok⟩ := Transaction.silent_eq_ok.mp ok
          simp only [HcuAutoOpt.reserveRoundBudget, Except.bind_eq_ok] at ok
          obtain ⟨_, _, _, _, _, _, _, _, ok⟩ := ok
          split at ok
          · simp only [Except.bind_eq_ok] at ok
            obtain ⟨_, _, _, _, _, _, ok⟩ := ok
            cases ok
            exact same rfl
          · rename_i absent
            exact absurd clash (by simpa using List.find?_eq_none.mp absent row present)
      | finalizeRoundBudget entry valid =>
          obtain ⟨_, ok⟩ := Transaction.silent_eq_ok.mp ok
          simp only [HcuAutoOpt.finalizeRoundBudget, Except.bind_eq_ok, requireSome_eq_ok,
            require_eq_ok] at ok
          obtain ⟨_, _, _, _, reservation, there, _, inRound, ok⟩ := ok
          split at ok
          · simp only [Except.bind_eq_ok] at ok
            obtain ⟨_, _, ok⟩ := ok
            cases ok
            exact same rfl
          · simp only [Except.bind_eq_ok, require_eq_ok] at ok
            obtain ⟨_, reserved, _⟩ := ok
            refine absurd reserved (closed.settled reservation ?_)
            simp only [Store.reservationsOf, List.mem_filter, decide_eq_true_eq]
            exact ⟨Table.mem_of_find? there, inRound⟩
    · obtain ⟨sameRound, sameRows⟩ := moves.otherRounds roundId own
      exact ⟨sameRound.trans closed.found, .of_rows sameRows⟩
  · refine ⟨?_, .of_rows (created.rows roundId)⟩
    rw [created.rounds]
    exact Table.find?_insertIfAbsent_of_some closed.found

/-- A signoff leaves the ledger of a closed round, and the round closed. -/
theorem SignoffMove.closed {p p' : SignoffPicture} {action : SignoffAction}
    (move : SignoffMove env p action p')
    (ended : p.round.state.isTerminal = true ∨ p.round.state = .awaitingSignoff)
    (formal : p.round.state.isScripted = false → p.round.runMode = .formal) :
    (p'.round.state.isTerminal = true ∨ p'.round.state = .awaitingSignoff) ∧
      (p'.round.state.isScripted = false → p'.round.runMode = .formal) ∧
      (p.round.state = .scriptedCompleted → p'.round = p.round) ∧ p.round.Moved p'.round := by
  cases move with
  | finalize _ _ _ valid _ _ _ mode =>
      exact ⟨.inr rfl, fun _ => mode, fun here => absurd here (valid.formal mode).2, rfl⟩
  | createIntent | publish => exact ⟨ended, formal, fun _ => rfl, rfl⟩
  | @decide _ _ intent _ _ _ _ awaits =>
      refine ⟨.inl ?_, fun _ => formal (by rw [awaits.1]; rfl), fun here => ?_, rfl⟩
      · simp only [SearchRound.moveTo]
        cases intent.decision <;> rfl
      · rw [awaits.1] at here
        cases here

theorem FormalCall.closed {call : FormalCall} {u : Unit} (consistent : s.SignoffsConsistent)
    (closed : s.LedgerClosed roundId round) (ok : call.run env s = .ok (s', u)) :
    ∃ round', s'.LedgerClosed roundId round' ∧ s.SameLedger s' roundId ∧
      (round.state = .scriptedCompleted → round' = round) ∧ round.Moved round' := by
  rcases call.effect consistent ok with still | ⟨moved, action, p, p', _, moves⟩
  · rw [still]
    exact ⟨round, closed, .of_rows rfl, fun _ => rfl, rfl⟩
  have ledger : s.SameLedger s' roundId := .of_rows (moves.rows roundId)
  have settled : ∀ row ∈ s'.reservationsOf roundId, row.state ≠ .reserved := by
    rw [ledger.reservations]
    exact closed.settled
  by_cases own : roundId = moved
  · subst own
    cases closed.found.symm.trans moves.rewrites.found
    obtain ⟨ended, formal, still⟩ := moves.move.closed closed.ended closed.formal
    exact ⟨p'.round, ⟨moves.rewrites.found', ended, formal, settled⟩, ledger, still⟩
  · exact ⟨round, ⟨(moves.rewrites.otherRounds _ own).trans closed.found, closed.ended,
      closed.formal, settled⟩, ledger, fun _ => rfl, rfl⟩

theorem FormalUntouched.closed (untouched : FormalUntouched s s')
    (closed : s.LedgerClosed roundId round) :
    s'.LedgerClosed roundId round ∧ s.SameLedger s' roundId := by
  obtain ⟨reservations, ledger⟩ := untouched.budgets roundId
  have same : s.SameLedger s' roundId := ⟨reservations, ledger, by rw [untouched.bundles]⟩
  refine ⟨⟨?_, closed.ended, closed.formal, by rw [reservations]; exact closed.settled⟩, same⟩
  rcases untouched.rounds roundId with still | ⟨old, new, before, _, _, _, live, running, _⟩
  · exact still.trans closed.found
  · cases before.symm.trans closed.found
    rcases closed.ended with terminal | awaits
    · rw [live] at terminal
      cases terminal
    · rw [awaits] at running
      cases running

/-- **A quiet step leaves a closed ledger closed, as it is.** -/
theorem QuietStep.closed {label : Option AnyRoundCall} (step : QuietStep env roundId s label s')
    (consistent : s.SignoffsConsistent) (closed : s.LedgerClosed roundId round) :
    ∃ round', s'.LedgerClosed roundId round' ∧ s.SameLedger s' roundId ∧
      (round.state = .scriptedCompleted → round' = round) ∧ round.Moved round' := by
  obtain ⟨step, quiet⟩ := step
  cases step with
  | elsewhere untouched =>
      obtain ⟨closed', same⟩ := untouched.closed closed
      exact ⟨round, closed', same, fun _ => rfl, rfl⟩
  | formal call =>
      rcases commit_cases (call.run env) s with ⟨e, _, committed⟩ | ⟨t, reply, ok, committed⟩
      · rw [committed]
        exact ⟨round, closed, .of_rows rfl, fun _ => rfl, rfl⟩
      · rw [committed]
        exact call.closed consistent closed ok
  | scripted call =>
      rcases commit_cases (call.run env.toRoundEnv) s with
        ⟨e, _, committed⟩ | ⟨t, reply, ok, committed⟩
      · rw [committed]
        exact ⟨round, closed, .of_rows rfl, fun _ => rfl, rfl⟩
      · rw [committed]
        obtain ⟨found, same⟩ := call.closed consistent.owned closed ok quiet
        exact ⟨round, ⟨found, closed.ended, closed.formal, by
          rw [same.reservations]; exact closed.settled⟩, same, fun _ => rfl, rfl⟩

end Steps

/-! ## Published bundles -/

/-- The bundle of a round, scripted or formal, binds its closed ledger. -/
structure Store.LedgerPublished (env : RoundEnv) (s : Store) (roundId : Uuid) : Prop where
  scripted : ∀ bundle, s.roundEvidenceBundles.find? roundId = some bundle →
    bundle.budgetLedgerHash = s.ledgerHash env roundId ∧
      ∃ round, s.LedgerClosed roundId round ∧ round.state = .scriptedCompleted
  formal : ∀ evidence, s.formal.evidence.find? roundId = some evidence →
    evidence.bundle.budgetLedgerHash = s.ledgerHash env roundId ∧
      ∃ round, s.LedgerClosed roundId round

section Publication

variable {env : FormalEnv} {s s' : Store} {roundId : Uuid}

theorem Store.SameLedger.hash {env : RoundEnv} (same : s.SameLedger s' roundId) :
    s'.ledgerHash env roundId = s.ledgerHash env roundId := by
  unfold Store.ledgerHash
  rw [same.reservations, same.ledger]

/-- A step that publishes nothing keeps what was published. -/
theorem QuietStep.keeps {label : Option AnyRoundCall} (step : QuietStep env roundId s label s')
    (consistent : s.SignoffsConsistent) (published : s.LedgerPublished env.toRoundEnv roundId) :
    (∀ bundle, s.roundEvidenceBundles.find? roundId = some bundle →
      bundle.budgetLedgerHash = s'.ledgerHash env.toRoundEnv roundId ∧
        ∃ round, s'.LedgerClosed roundId round ∧ round.state = .scriptedCompleted) ∧
      ∀ evidence, s.formal.evidence.find? roundId = some evidence →
        evidence.bundle.budgetLedgerHash = s'.ledgerHash env.toRoundEnv roundId ∧
          ∃ round, s'.LedgerClosed roundId round := by
  refine ⟨fun bundle there => ?_, fun evidence there => ?_⟩
  · obtain ⟨hash, round, closed, state⟩ := published.scripted bundle there
    obtain ⟨round', closed', same, still, _⟩ := step.closed consistent closed
    rw [still state] at closed'
    exact ⟨hash.trans same.hash.symm, round, closed', state⟩
  · obtain ⟨hash, round, closed⟩ := published.formal evidence there
    obtain ⟨round', closed', same, _⟩ := step.closed consistent closed
    exact ⟨hash.trans same.hash.symm, round', closed'⟩

/-- A step stores a scripted bundle only with the ledger it binds. -/
theorem FormalStep.bundle {label : Option AnyRoundCall} (step : FormalStep env s label s')
    (consistent : s.SignoffsConsistent) (roundId : Uuid) :
    s'.roundEvidenceBundles.find? roundId = s.roundEvidenceBundles.find? roundId ∨
      ∃ bundle, s'.roundEvidenceBundles.find? roundId = some bundle ∧
        bundle.budgetLedgerHash = s'.ledgerHash env.toRoundEnv roundId ∧
        ∃ round, s'.LedgerClosed roundId round ∧ round.state = .scriptedCompleted := by
  cases step with
  | elsewhere untouched => exact .inl (by rw [untouched.bundles])
  | formal call =>
      rcases commit_cases (call.run env) s with ⟨e, _, committed⟩ | ⟨t, reply, ok, committed⟩
      · exact .inl (by rw [committed])
      rw [committed]
      rcases call.effect consistent ok with still | ⟨_, _, _, _, _, moves⟩
      · exact .inl (by rw [still])
      · exact .inl (congrArg RoundRows.evidence (moves.rows roundId))
  | scripted call =>
      rcases commit_cases (call.run env.toRoundEnv) s with
        ⟨e, _, committed⟩ | ⟨t, reply, ok, committed⟩
      · exact .inl (by rw [committed])
      rw [committed]
      rcases call.effect consistent.owned ok with still | ⟨p, p', moves⟩ |
        ⟨request, task, valid, created⟩
      · exact .inl (by rw [still])
      · by_cases own : roundId = call.roundId
        · obtain ⟨found, _, rows⟩ := Store.picture_eq_some.mp moves.before
          obtain ⟨found', _, rows'⟩ := Store.picture_eq_some.mp moves.after
          rw [← own] at found rows found' rows'
          have key : p.round.roundId = roundId := Table.key_of_find? found
          rcases moves.move.publishes with same | ⟨bundle, there, hash, state, settled⟩
          · rw [← rows, ← rows'] at same
            exact .inl same
          · rw [← rows', key] at hash
            rw [← rows'] at there settled
            refine .inr ⟨bundle, there, hash, p'.round, ⟨found', .inl ?_, fun left => ?_, settled⟩,
              state⟩
            · rw [state]
              rfl
            · rw [state] at left
              cases left
        · exact .inl (congrArg RoundRows.evidence (moves.otherRounds roundId own).2)
      · exact .inl (congrArg RoundRows.evidence (created.rows roundId))

/-- A step stores the evidence of a formal round only with the ledger it binds. -/
theorem FormalStep.evidence {label : Option AnyRoundCall} (step : FormalStep env s label s')
    (consistent : s.SignoffsConsistent) (roundId : Uuid) :
    s'.formal.evidence.find? roundId = s.formal.evidence.find? roundId ∨
      ∃ evidence, s'.formal.evidence.find? roundId = some evidence ∧
        evidence.bundle.budgetLedgerHash = s'.ledgerHash env.toRoundEnv roundId ∧
        ∃ round, s'.LedgerClosed roundId round := by
  cases step with
  | elsewhere untouched => exact .inl (by rw [untouched.signoffs.1])
  | scripted call =>
      rcases commit_cases (call.run env.toRoundEnv) s with
        ⟨e, _, committed⟩ | ⟨t, reply, ok, committed⟩
      · exact .inl (by rw [committed])
      rw [committed]
      rcases call.effect consistent.owned ok with still | ⟨p, p', moves⟩ |
        ⟨request, task, valid, created⟩
      · exact .inl (by rw [still])
      · exact .inl (by rw [moves.formal])
      · exact .inl (by rw [created.formal])
  | formal call =>
      rcases commit_cases (call.run env) s with ⟨e, _, committed⟩ | ⟨t, reply, ok, committed⟩
      · exact .inl (by rw [committed])
      rw [committed]
      rcases call.effect consistent ok with still | ⟨moved, action, p, p', named, moves⟩
      · exact .inl (by rw [still])
      by_cases own : roundId = moved
      · subst own
        have key : p.round.roundId = roundId := Table.key_of_find? moves.rewrites.found
        have key' : p'.round.roundId = roundId := Table.key_of_find? moves.rewrites.found'
        have before : s.formal.evidence.find? roundId = p.evidence := by
          rw [← moves.before, ← key]
          rfl
        have after : t.formal.evidence.find? roundId = p'.evidence := by
          rw [← moves.after, ← key']
          rfl
        -- Only the finalization of the round writes its evidence.
        cases action with
        | createIntent | publishArtifact | finalizeSignoff =>
            refine .inl (after.trans (Eq.trans ?_ before.symm))
            cases moves.move
            all_goals rfl
        | complete | repairOutbox | manualReview => cases moves.move
        | notSignable =>
            cases call with
            | createFormalRoundSignoffIntent | recordFormalRoundSignoffArtifact
            | finalizeFormalRoundSignoff | reconcileFormalRoundSignoff => cases named
            | finalizeFormalSearchRound record =>
                obtain ⟨_, ok'⟩ := Transaction.silent_eq_ok.mp ok
                rcases finalizeFormalSearchRound_effect consistent ok' with
                  still | ⟨q, q', moves', stored, settled, hashed⟩
                · exact .inl (by rw [still])
                have same : record.bundle.roundId = roundId := by
                  by_contra different
                  have unmoved := moves'.rewrites.otherRounds roundId (Ne.symm different)
                  rw [moves.rewrites.found, moves.rewrites.found'] at unmoved
                  have version := congrArg SearchRound.version (Option.some.inj unmoved)
                  cases moves.move with
                  | finalize => exact absurd version (Nat.succ_ne_self _)
                rw [same] at moves' settled hashed
                have rows := moves.rows roundId
                have ledger : s.SameLedger t roundId := .of_rows rows
                have key'' : q'.round.roundId = roundId := Table.key_of_find? moves'.rewrites.found'
                refine .inr ⟨record.row, ?_, hashed.trans ledger.hash.symm, p'.round,
                  moves.rewrites.found', ?_, ?_, ?_⟩
                · rw [← stored, ← moves'.after, ← key'']
                  rfl
                · cases moves.move with
                  | finalize => exact .inr rfl
                · cases moves.move with
                  | finalize _ _ _ _ _ _ _ mode => exact fun _ => mode
                · rw [ledger.reservations]
                  exact settled
      · exact .inl (moves.others roundId own).evidence

/-- **A quiet step keeps the published ledgers.** -/
theorem QuietStep.ledgerPublished {label : Option AnyRoundCall}
    (step : QuietStep env roundId s label s') (consistent : s.SignoffsConsistent)
    (published : s.LedgerPublished env.toRoundEnv roundId) :
    s'.LedgerPublished env.toRoundEnv roundId := by
  obtain ⟨scripted, formal⟩ := step.keeps consistent published
  refine ⟨fun bundle there => ?_, fun evidence there => ?_⟩
  · rcases step.1.bundle consistent roundId with same | ⟨new, stored, bound⟩
    · exact scripted bundle (same.symm.trans there)
    · cases stored.symm.trans there
      exact bound
  · rcases step.1.evidence consistent roundId with same | ⟨new, stored, bound⟩
    · exact formal evidence (same.symm.trans there)
    · cases stored.symm.trans there
      exact bound

end Publication

/-! ## Repeated finalizations -/

/-- The verifier of formal evidence reads everything of a round but its version. -/
def FormalVerifier.IgnoresVersion (verify : FormalVerifier) : Prop :=
  ∀ context (round : SearchRound) version search reveal holdout comparison bundle,
    verify context { round with version := version } search reveal holdout comparison bundle =
      verify context round search reveal holdout comparison bundle

/-- What the finalization of a formal round with the given evidence left behind. -/
structure Store.FormallyFinalized (env : FormalEnv) (s : Store)
    (record : FormalEvidenceBundlePersistence) (round : SearchRound) : Prop where
  closed : s.LedgerClosed record.bundle.roundId round
  stored : s.formal.evidence.find? record.bundle.roundId = some record.row
  verified : ∃ context path, s.loadFormalContext record.context = .ok context ∧
    s.Verifies env record context { round with state := .awaitingSignoff } .awaitingSignoff path

section Repetition

variable {env : FormalEnv} {s s' : Store}

theorem FormalPath.requireTerminal_here {path : FormalPath} {reason : RoundTerminalReason}
    {state : SearchRoundState} (state' : SearchRoundState)
    (ok : path.requireTerminal reason state state = .ok ()) :
    path.requireTerminal reason state' state' = .ok () := by
  cases reason with
  | noPromotableCandidate => exact require_eq_ok.mpr ⟨rfl, (require_eq_ok.mp ok).2⟩
  | holdoutCompleted => exact require_eq_ok.mpr ⟨rfl, (require_eq_ok.mp ok).2⟩

/-- What the evidence of a round was verified against stays with its ledger. -/
theorem Store.Verifies.later {record : FormalEvidenceBundlePersistence}
    {context : FormalAuthorityContext} {round round' : SearchRound}
    {state state' : SearchRoundState} {path : FormalPath}
    (ignores : ∀ verify, env.formalFinalizer = some verify →
      FormalVerifier.IgnoresVersion verify)
    (verifies : s.Verifies env record context { round with state := state } state path)
    (moved : round.Moved round') (valid : { round' with state := state' }.Valid)
    (ledger : s.SameLedger s' record.bundle.roundId)
    (measured : s'.formal.barrier? record.bundle.roundId .search =
        s.formal.barrier? record.bundle.roundId .search ∧
      ∀ search, s'.formalPath record.bundle.roundId search =
        s.formalPath record.bundle.roundId search) :
    s'.Verifies env record context { round' with state := state' } state' path where
  search := measured.1.trans verifies.search
  rows := verifies.rows.trans (measured.2 _).symm
  terminal := FormalPath.requireTerminal_here state' verifies.terminal
  settled := by
    rw [ledger.reservations]
    exact verifies.settled
  hashed := by
    rw [ledger.reservations, ledger.ledger]
    exact verifies.hashed
  valid := valid
  verified := by
    obtain ⟨verify, configured, verified⟩ := verifies.verified
    refine ⟨verify, configured, ?_⟩
    have same : { round with state := record.bundle.terminalReason.barrierState
                             version := round'.version } =
        { round' with state := record.bundle.terminalReason.barrierState } := by
      unfold SearchRound.Moved at moved
      rw [← moved]
    have ignored := ignores verify configured context
      { round with state := record.bundle.terminalReason.barrierState } round'.version
      path.search.barrier path.reveal (path.holdout.map FormalBarrier.barrier)
      (path.comparison.map FormalMultipleComparison.result) record.bundle
    simp only [same] at ignored
    exact ignored.trans verified

/-- A step leaves the measurements and the context of a round with evidence. -/
theorem FormalStep.measured {label : Option AnyRoundCall} (step : FormalStep env s label s')
    (consistent : s.SignoffsConsistent) {roundId : Uuid}
    (evident : s.formal.evidence.find? roundId ≠ none) :
    (s'.formal.barrier? roundId .search = s.formal.barrier? roundId .search ∧
      ∀ search, s'.formalPath roundId search = s.formalPath roundId search) ∧
      ∀ context, s.formal.contexts.find? roundId = some context →
        s'.formal.contexts.find? roundId = some context := by
  have same : s'.formal.barriers = s.formal.barriers ∧ s'.formal.reveals = s.formal.reveals ∧
      s'.formal.comparisons = s.formal.comparisons → s'.formal.contexts = s.formal.contexts →
      (s'.formal.barrier? roundId .search = s.formal.barrier? roundId .search ∧
        ∀ search, s'.formalPath roundId search = s.formalPath roundId search) ∧
        ∀ context, s.formal.contexts.find? roundId = some context →
          s'.formal.contexts.find? roundId = some context := by
    rintro ⟨barriers, reveals, comparisons⟩ contexts
    refine ⟨⟨?_, fun search => ?_⟩, fun context there => ?_⟩
    · unfold FormalTables.barrier?
      rw [barriers]
    · unfold Store.formalPath FormalTables.barrier?
      rw [barriers, reveals, comparisons]
    · rw [contexts]
      exact there
  cases step with
  | elsewhere untouched => exact ⟨untouched.measured roundId evident, untouched.sealed roundId⟩
  | formal call =>
      rcases commit_cases (call.run env) s with ⟨e, _, committed⟩ | ⟨t, reply, ok, committed⟩
      · rw [committed] at same ⊢
        exact same ⟨rfl, rfl, rfl⟩ rfl
      rw [committed] at same ⊢
      rcases call.effect consistent ok with rfl | ⟨_, _, _, _, _, moves⟩
      · exact same ⟨rfl, rfl, rfl⟩ rfl
      · exact same moves.measured moves.contexts
  | scripted call =>
      rcases commit_cases (call.run env.toRoundEnv) s with
        ⟨e, _, committed⟩ | ⟨t, reply, ok, committed⟩
      · rw [committed] at same ⊢
        exact same ⟨rfl, rfl, rfl⟩ rfl
      rw [committed] at same ⊢
      rcases call.effect consistent.owned ok with rfl | ⟨p, p', moves⟩ |
        ⟨request, task, valid, created⟩
      · exact same ⟨rfl, rfl, rfl⟩ rfl
      · have formal := moves.formal
        exact same (by rw [formal]; exact ⟨rfl, rfl, rfl⟩) (by rw [formal])
      · have formal := created.formal
        exact same (by rw [formal]; exact ⟨rfl, rfl, rfl⟩) (by rw [formal])

/-- A round with evidence is formal, and valid while it waits. -/
theorem Store.SignoffsConsistent.of_evidence (consistent : s.SignoffsConsistent) {roundId : Uuid}
    {evidence : FormalEvidence} {round : SearchRound}
    (found : s.searchRounds.find? roundId = some round)
    (stored : s.formal.evidence.find? roundId = some evidence) :
    round.runMode = .formal ∧ { round with state := .awaitingSignoff }.Valid := by
  obtain ⟨task, tasked⟩ := consistent.owned.task found
  obtain ⟨action, stage⟩ := consistent.stage _ _ _ found tasked
  have key : round.roundId = roundId := Table.key_of_find? found
  have left : round.state.isScripted = false := by
    cases running : round.state.isScripted with
    | false => rfl
    | true =>
        cases stage.running_iff.mp running
        cases stage with
        | unfinished _ rows =>
            have none := rows.1
            simp only [FormalTables.picture, key, stored] at none
            cases none
  obtain ⟨_, _, evident⟩ := stage.evident_of_signoff left
  have valid : round.Valid := evident.valid
  exact ⟨evident.mode, valid.inState evident.mode (by decide) valid.version⟩

theorem Store.loadFormalContext_intro {reference : FormalAuthorityContextRef}
    {context : FormalAuthorityContext}
    (found : s.formal.contexts.find? reference.roundId = some context)
    (same : context.toFormalAuthorityContextRef = reference) :
    s.loadFormalContext reference = .ok context := by
  simp only [Store.loadFormalContext, Except.bind_eq_ok, requireSome_eq_ok, require_eq_ok]
  exact ⟨context, found, (), congrArg FormalAuthorityContextRef.authorityContextId same, (), same,
    rfl⟩

/-- An accepted finalization has stored what its repetition is checked against. -/
theorem finalizeFormalSearchRound_finalized (consistent : s.SignoffsConsistent)
    (ignores : ∀ verify, env.formalFinalizer = some verify →
      FormalVerifier.IgnoresVersion verify)
    {record : FormalEvidenceBundlePersistence} {reply : SearchRound}
    (ok : finalizeFormalSearchRound env record s = .ok (s', reply)) :
    ∃ round, s'.FormallyFinalized env record round := by
  have step : FormalStep env s _ _ := .formal (.finalizeFormalSearchRound record) s
  have run : FormalCall.run env (.finalizeFormalSearchRound record) s = .ok (s', ()) :=
    Transaction.silent_eq_ok.mpr ⟨reply, ok⟩
  rw [commit_of_ok run] at step
  have next := step.signoffsConsistent consistent
  simp only [finalizeFormalSearchRound, Except.bind_eq_ok, requireSome_eq_ok,
    Store.requireRound_eq_ok] at ok
  obtain ⟨round, found, task, tasked, context, loaded, ok⟩ := ok
  split at ok
  · rename_i existing stored
    simp only [Except.bind_eq_ok, require_eq_ok, verifyFormalEvidence_eq_ok] at ok
    obtain ⟨_, ⟨rfl, _⟩, _, ⟨state, _⟩, path, verifies, ok⟩ := ok
    have here : { round with state := .awaitingSignoff } = round := by rw [← state]
    rw [← here] at verifies
    cases ok
    refine ⟨reply, ⟨found, .inr state, fun _ => (consistent.of_evidence found stored).1,
      verifies.settled⟩, stored, context, path, loaded, verifies⟩
  · rename_i first
    simp only [Except.bind_eq_ok, require_eq_ok, verifyFormalEvidence_eq_ok] at ok
    obtain ⟨path, verifies, _, _, ok⟩ := ok
    have state := FormalPath.state_of_requireTerminal verifies.terminal
    rw [← state] at verifies
    cases ok
    have found' := (Table.find?_update_known
      (f := SearchRound.moveTo .awaitingSignoff) found record.bundle.roundId).trans (if_pos rfl)
    have stored := (Table.find?_insert_new (show s.formal.evidence.find? (key record.row) = none
      from first) record.bundle.roundId).trans (if_pos rfl)
    obtain ⟨mode, valid⟩ := next.of_evidence found' stored
    exact ⟨round.moveTo .awaitingSignoff, ⟨found', .inr rfl, fun _ => mode, verifies.settled⟩,
      stored, context, path, loaded, verifies.later ignores rfl valid (.of_rows rfl)
        ⟨rfl, fun _ => rfl⟩⟩

/-- **A quiet step keeps what a repeated finalization is checked against.** -/
theorem QuietStep.formallyFinalized {label : Option AnyRoundCall}
    {record : FormalEvidenceBundlePersistence} {round : SearchRound}
    (step : QuietStep env record.bundle.roundId s label s') (consistent : s.SignoffsConsistent)
    (ignores : ∀ verify, env.formalFinalizer = some verify →
      FormalVerifier.IgnoresVersion verify)
    (finalized : s.FormallyFinalized env record round) :
    ∃ round', s'.FormallyFinalized env record round' := by
  obtain ⟨round', closed, same, _, moved⟩ := step.closed consistent finalized.closed
  have later := step.1.later consistent record.bundle.roundId
  have next := step.1.signoffsConsistent consistent
  have stored := later.evidence _ finalized.stored
  obtain ⟨measured, kept⟩ := step.1.measured consistent (by
    rw [finalized.stored]
    exact (by simp) : s.formal.evidence.find? record.bundle.roundId ≠ none)
  obtain ⟨context, path, loaded, verifies⟩ := finalized.verified
  obtain ⟨sealed, own⟩ := Store.loadFormalContext_eq_ok loaded
  rw [← record.bound.1] at sealed
  have sealed' := kept context sealed
  rw [record.bound.1] at sealed'
  exact ⟨round', closed, stored, context, path, Store.loadFormalContext_intro sealed' own,
    verifies.later ignores moved (next.of_evidence closed.found stored).2 same measured⟩

/-- A repeated finalization is accepted while the round waits, if its bundle reads back. -/
theorem Store.FormallyFinalized.again {record : FormalEvidenceBundlePersistence}
    {round : SearchRound} (finalized : s.FormallyFinalized env record round)
    (consistent : s.SignoffsConsistent) (awaits : round.state = .awaitingSignoff)
    (reads : record.bundle.ReadsBack) :
    finalizeFormalSearchRound env record s = .ok (s, round) := by
  have found := finalized.closed.found
  obtain ⟨task, tasked⟩ := consistent.owned.task found
  obtain ⟨_, stage⟩ := consistent.stage _ _ _ found tasked
  obtain ⟨context, path, loaded, verifies⟩ := finalized.verified
  have here : { round with state := .awaitingSignoff } = round := by rw [← awaits]
  rw [here] at verifies
  simp only [finalizeFormalSearchRound, Except.bind_eq_ok, requireSome_eq_ok,
    Store.requireRound_eq_ok, finalized.stored, require_eq_ok, verifyFormalEvidence_eq_ok]
  exact ⟨round, found, task, tasked, context, loaded, (), ⟨trivial, reads⟩, (),
    ⟨awaits, stage.sound.waiting awaits⟩, path, verifies, rfl⟩

end Repetition

/-! ## Runs -/

section Runs

variable {env : FormalEnv} {roundId : Uuid} {s s' : Store} {trace : List (Option AnyRoundCall)}

theorem published_of_steps (steps : Steps (QuietStep env roundId) s trace s')
    (consistent : s.SignoffsConsistent) (published : s.LedgerPublished env.toRoundEnv roundId) :
    s'.SignoffsConsistent ∧ s'.LedgerPublished env.toRoundEnv roundId :=
  steps.invariant (I := fun s => s.SignoffsConsistent ∧ s.LedgerPublished env.toRoundEnv roundId)
    (fun _ _ _ here step =>
      ⟨step.1.signoffsConsistent here.1, step.ledgerPublished here.1 here.2⟩)
    ⟨consistent, published⟩

theorem consistent_of_quietSteps (steps : Steps (QuietStep env roundId) s trace s')
    (consistent : s.SignoffsConsistent) : s'.SignoffsConsistent :=
  signoffsConsistent_of_steps (steps.mono fun _ _ _ step => step.1) consistent

/-- A quiet run leaves a closed ledger closed, as it is. -/
theorem closed_of_steps (steps : Steps (QuietStep env roundId) s trace s')
    (consistent : s.SignoffsConsistent) {round : SearchRound}
    (closed : s.LedgerClosed roundId round) :
    ∃ round', s'.LedgerClosed roundId round' ∧ s.SameLedger s' roundId ∧
      (round.state = .scriptedCompleted → round' = round) := by
  induction steps with
  | refl => exact ⟨round, closed, .of_rows rfl, fun _ => rfl⟩
  | tail steps step ih =>
      obtain ⟨middle, closed', same, still⟩ := ih
      obtain ⟨last, closed'', same', still', _⟩ :=
        step.closed (consistent_of_quietSteps steps consistent) closed'
      refine ⟨last, closed'', ⟨same'.reservations.trans same.reservations,
        same'.ledger.trans same.ledger, same'.bundle.trans same.bundle⟩, fun completed => ?_⟩
      have unmoved := still completed
      rw [still' (by rw [unmoved]; exact completed), unmoved]

theorem formallyFinalized_of_steps {record : FormalEvidenceBundlePersistence}
    (steps : Steps (QuietStep env record.bundle.roundId) s trace s')
    (consistent : s.SignoffsConsistent)
    (ignores : ∀ verify, env.formalFinalizer = some verify → FormalVerifier.IgnoresVersion verify)
    {round : SearchRound} (finalized : s.FormallyFinalized env record round) :
    ∃ round', s'.FormallyFinalized env record round' := by
  induction steps with
  | refl => exact ⟨round, finalized⟩
  | tail steps step ih =>
      obtain ⟨middle, finalized'⟩ := ih
      exact step.formallyFinalized (consistent_of_quietSteps steps consistent) ignores finalized'

/-- A store without evidence has published no ledger. -/
theorem Store.NoSignoffs.ledgerPublished (start : s.NoSignoffs)
    (unpublished : s.roundEvidenceBundles = ∅) (env : RoundEnv) (roundId : Uuid) :
    s.LedgerPublished env roundId where
  scripted := fun bundle there => by
    rw [unpublished] at there
    cases there
  formal := fun evidence there => by
    rw [start.rows.1] at there
    cases there

end Runs

/-! ## The main result -/

/-- **A published ledger stays.** In every quiet run for a round: its stored bundle, scripted
or formal, stays and binds the hash of its ledger, and an accepted finalization whose bundle
reads back is accepted again without any change, that of a formal round as long as it waits
for its signoff. -/
theorem published_ledger_stays {env : FormalEnv} {roundId : Uuid} {s₀ s : Store}
    {before : List (Option AnyRoundCall)} (start : s₀.NoSignoffs)
    (unpublished : s₀.roundEvidenceBundles = ∅)
    (reached : Steps (QuietStep env roundId) s₀ before s) :
    (∀ bundle, s.roundEvidenceBundles.find? roundId = some bundle →
      ∀ after s', Steps (QuietStep env roundId) s after s' →
        s'.roundEvidenceBundles.find? roundId = some bundle ∧
          s'.ledgerHash env.toRoundEnv roundId = bundle.budgetLedgerHash) ∧
    (∀ evidence, s.formal.evidence.find? roundId = some evidence →
      ∀ after s', Steps (QuietStep env roundId) s after s' →
        s'.formal.evidence.find? roundId = some evidence ∧
          s'.ledgerHash env.toRoundEnv roundId = evidence.bundle.budgetLedgerHash) ∧
    (∀ (bundle : RoundEvidenceBundle) s₁ reply, bundle.roundId = roundId → bundle.ReadsBack →
      finalizeScriptedSearchRound env.toRoundEnv bundle s = .ok (s₁, reply) →
      ∀ after s', Steps (QuietStep env roundId) s₁ after s' →
        finalizeScriptedSearchRound env.toRoundEnv bundle s' = .ok (s', reply)) ∧
    ((∀ verify, env.formalFinalizer = some verify → FormalVerifier.IgnoresVersion verify) →
      ∀ (record : FormalEvidenceBundlePersistence) s₁ reply, record.bundle.roundId = roundId →
      record.bundle.ReadsBack →
      finalizeFormalSearchRound env record s = .ok (s₁, reply) →
      ∀ after s' round, Steps (QuietStep env roundId) s₁ after s' →
        s'.searchRounds.find? roundId = some round → round.state = .awaitingSignoff →
        finalizeFormalSearchRound env record s' = .ok (s', round)) := by
  obtain ⟨consistent, published⟩ := published_of_steps reached start.signoffsConsistent
    (start.ledgerPublished unpublished _ _)
  refine ⟨fun bundle there after s' steps => ?_, fun evidence there after s' steps => ?_,
    fun bundle s₁ reply own reads ok after s' steps => ?_,
    fun ignores record s₁ reply own reads ok after s' round steps found awaits => ?_⟩
  · obtain ⟨hash, round, closed, _⟩ := published.scripted bundle there
    obtain ⟨_, _, same, _⟩ := closed_of_steps steps consistent closed
    exact ⟨same.bundle.trans there, same.hash.trans hash.symm⟩
  · obtain ⟨hash, round, closed⟩ := published.formal evidence there
    obtain ⟨_, _, same, _⟩ := closed_of_steps steps consistent closed
    have later := signoffsLater_of_steps (steps.mono fun _ _ _ step => step.1) consistent roundId
    exact ⟨later.evidence _ there, same.hash.trans hash.symm⟩
  · subst own
    have run : RoundCall.run env.toRoundEnv (.finalizeScriptedSearchRound bundle) s =
        .ok (s₁, ()) := Transaction.silent_eq_ok.mpr ⟨reply, ok⟩
    have step : QuietStep env bundle.roundId s
        (some (.scripted (.finalizeScriptedSearchRound bundle))) s₁ := by
      have taken : FormalStep env s _ _ := .scripted (.finalizeScriptedSearchRound bundle) s
      rw [commit_of_ok run] at taken
      exact ⟨taken, fun _ _ _ named => by cases named⟩
    have consistent₁ := step.1.signoffsConsistent consistent
    have published₁ := step.ledgerPublished consistent published
    obtain ⟨scripted, found, there, completed⟩ := finalizeScriptedSearchRound_recorded ok
    obtain ⟨_, round, closed, _⟩ := published₁.scripted bundle there
    cases closed.found.symm.trans found
    obtain ⟨last, closed', same, still⟩ := closed_of_steps steps consistent₁ closed
    have unmoved := still completed
    subst unmoved
    exact finalizeScriptedSearchRound_again scripted closed'.found (same.bundle.trans there)
      completed reads
  · subst own
    have run : FormalCall.run env (.finalizeFormalSearchRound record) s = .ok (s₁, ()) :=
      Transaction.silent_eq_ok.mpr ⟨reply, ok⟩
    have step : FormalStep env s _ _ := .formal (.finalizeFormalSearchRound record) s
    rw [commit_of_ok run] at step
    have consistent₁ := step.signoffsConsistent consistent
    obtain ⟨first, finalized⟩ := finalizeFormalSearchRound_finalized consistent ignores ok
    obtain ⟨last, finalized'⟩ :=
      formallyFinalized_of_steps steps consistent₁ ignores finalized
    cases finalized'.closed.found.symm.trans found
    exact finalized'.again (consistent_of_quietSteps steps consistent₁) awaits reads

/-! ## A ledger that drifts -/

theorem FormalCall.quiet (env : FormalEnv) (roundId : Uuid) (call : FormalCall) (s : Store) :
    QuietStep env roundId s (some (.formal call)) (commit (call.run env) s).1 :=
  ⟨.formal call s, fun _ _ _ named => by cases named⟩

/-- The evidence of the sample round stays with its ledger through the signoff. -/
theorem published_ledger_stays_signoff :
    (runFormalCalls plainFormalEnv formalStore
        [.finalizeFormalSearchRound formalRecord]).formal.evidence.find? 11 =
          some formalRecord.row ∧
      ∀ evidence, (runFormalCalls plainFormalEnv formalStore
          [.finalizeFormalSearchRound formalRecord]).formal.evidence.find? 11 = some evidence →
        ∀ after s', Steps (QuietStep plainFormalEnv 11) (runFormalCalls plainFormalEnv formalStore
            [.finalizeFormalSearchRound formalRecord]) after s' →
          s'.formal.evidence.find? 11 = some evidence ∧
            s'.ledgerHash plainFormalEnv.toRoundEnv 11 = evidence.bundle.budgetLedgerHash :=
  ⟨rfl, (published_ledger_stays noSignoffs_formalStore rfl
    (.single (FormalCall.quiet plainFormalEnv 11 _ formalStore))).2.1⟩

/-- Surroundings that tell an empty ledger from others. -/
def ledgerEnv : FormalEnv :=
  { plainFormalEnv with
    digest := fun
      | .budgetLedger _ (_ :: _) _ => "sha256:2"
      | _ => "sha256:0" }

/-- The store of the formal round, with a queued job of its task. -/
def reservingStore : Store := { formalStore with jobs := authorityStore.jobs }

/-- A job of the round is reserved for while the round waits for its signoff. -/
def sampleLateReserve : RoundCall :=
  .reserveRoundBudget sampleReservation sampleReserve valid_sampleReserve

/-- **A published ledger drifts, and a finalization is not repeated**: a reservation is
accepted while a formal round waits for its signoff, after which the ledger has another
hash and the finalization is refused, as it is once the signoff is decided. -/
theorem published_ledger_drifts :
    reservingStore.NoSignoffs ∧ reservingStore.roundEvidenceBundles = ∅ ∧
      (let s := runFormalCalls ledgerEnv reservingStore [.finalizeFormalSearchRound formalRecord]
      Steps (FormalStep ledgerEnv) reservingStore
        [some (.formal (.finalizeFormalSearchRound formalRecord))] s ∧
      s.formal.evidence.find? 11 = some formalRecord.row ∧
      s.ledgerHash ledgerEnv.toRoundEnv 11 = formalRecord.bundle.budgetLedgerHash ∧
      (sampleLateReserve.run ledgerEnv.toRoundEnv s).toOption.isSome = true ∧
      (let s' := (commit (sampleLateReserve.run ledgerEnv.toRoundEnv) s).1
      s'.ledgerHash ledgerEnv.toRoundEnv 11 ≠ formalRecord.bundle.budgetLedgerHash ∧
      (finalizeFormalSearchRound ledgerEnv formalRecord s').toOption.isNone = true)) ∧
      (let s := runFormalCalls plainFormalEnv formalStore (signoffCalls "decision" ++
        [.finalizeFormalRoundSignoff (publishedDecision "decision")])
      s.formal.evidence.find? 11 = some formalRecord.row ∧
      (finalizeFormalSearchRound plainFormalEnv formalRecord s).toOption.isNone = true) := by
  have owned := noSignoffs_formalStore.owned
  refine ⟨{
    owned := ⟨owned.tasked, owned.owned, owned.apart⟩
    sealed := noSignoffs_formalStore.sealed
    running := noSignoffs_formalStore.running
    rows := noSignoffs_formalStore.rows }, rfl,
    ⟨steps_runFormalCalls _ _ [.finalizeFormalSearchRound formalRecord], rfl,
      by decide +kernel, by decide +kernel, by decide +kernel, by decide +kernel⟩, rfl,
    by decide +kernel⟩

end HcuAutoOpt
