import MultiCore.Daemon.Session
import MultiCore.Host.FixBatches
import MultiCore.Service.CoreLoop

/-!
# One confirmed batch of privileged fixes

The batch goes to the service when that is there and may run it, and otherwise to
the elevated helper, behind a prompt. Every point at which the exchange with the
service may fail is part of the service's conduct: before a channel is open,
before the command has left, at the service's own checks, and while the fixes run.
-/

namespace MultiCore.Daemon

open Service

/-- Why the elevated helper gave no outcomes. -/
inductive HelperError where
  /-- The user dismissed the administrator prompt. -/
  | cancelled
  | failed
  deriving DecidableEq, Repr

/-- Why a privileged batch did not run at all. -/
inductive BatchError where
  | cancelled
  /-- The installed service predates troubleshooting. -/
  | serviceTooOld
  /-- Another user's session holds the service. -/
  | busy
  /-- The service's tunnel is up. -/
  | tunnelUp
  | failed
  deriving DecidableEq, Repr

/-- The service's own fixes, whatever each of them does. -/
structure ServiceTroubleshooter where
  runFix : PrivilegedFix → FixOutcome

instance : Troubleshooter ServiceTroubleshooter where
  run troubleshooter fixes := runBatch troubleshooter.runFix fixes

/-- What becomes of the exchange once the command has reached the service. -/
inductive Fate where
  | answered
  /-- The answer is no answer of the protocol; so many fixes had begun. -/
  | undecodable (begun : Nat)
  /-- No answer in time; so many fixes begin, before the deadline or after it. -/
  | timedOut (begun : Nat)
  /-- The channel drops; so many fixes begin, before the drop or after it. -/
  | dropped (begun : Nat)
  deriving DecidableEq, Repr

/-- How the service behaves towards one batch. -/
structure ServiceConduct (C U : Type*) where
  /-- The probe found the service usable. -/
  available : Bool
  /-- Why no channel could be opened. -/
  connectError : Option ServiceError
  /-- Why the command did not leave. -/
  sendError : Option ServiceError
  /-- Whom the service takes the other end of the channel for. -/
  client : Option ClientIdentity
  /-- The service is recent enough to know the command. -/
  knowsCommand : Bool
  loop : ServiceLoop C U ServiceTroubleshooter
  fate : Fate

/-- How the elevated helper behaves towards one batch. -/
inductive HelperConduct where
  /-- The prompt was dismissed: nothing was started. -/
  | dismissed
  /-- The helper could not be started. -/
  | notStarted
  /-- The helper ran to its end. -/
  | ended (runFix : PrivilegedFix → FixOutcome)
  /-- No exit code was read: too late, or the process was gone; so many fixes begin. -/
  | lost (begun : Nat)

/-- What one batch led to. -/
structure BatchRun where
  result : Except BatchError (List FixOutcome)
  /-- The fixes the service began, in their order. -/
  byService : List PrivilegedFix
  /-- The helper's process was started. -/
  helperStarted : Bool
  /-- The fixes the helper began, in their order. -/
  byHelper : List PrivilegedFix

/-- No fix began twice, and the helper was started only where the service began none. -/
def BatchRun.OneWay (run : BatchRun) : Prop :=
  (run.helperStarted → run.byService = []) ∧
    ∀ fix, (run.byService ++ run.byHelper).count fix ≤ 1

/-- Whether an answer is one to this batch. -/
def troubleshootMatches (fixes : List PrivilegedFix) : ServiceResponse → Bool
  | .busy | .error _ => true
  | .troubleshot outcomes => fixes.length == outcomes.length
  | _ => false

namespace ServiceConduct

variable {C U : Type*}

/-- The service serves one batch: its answer, and the fixes it runs for it. -/
def serve (service : ServiceConduct C U) (fixes : List PrivilegedFix) :
    ServiceResponse × List PrivilegedFix :=
  match service.client with
  | none => (.error .authenticationFailed, [])
  | some client =>
    if !service.knowsCommand then (.error .invalidRequest, [])
    else
      match validateFixBatch fixes true with
      | .error _ => (.error .invalidRequest, [])
      | .ok () =>
        match service.loop.startTroubleshoot client fixes with
        | (_, .error response) => (response, [])
        | (loop, .ok troubleshooter) =>
          let outcomes := Troubleshooter.run troubleshooter fixes
          ((loop.finishTroubleshoot fixes outcomes).2, executed fixes)

/-- One request on a channel of its own: its result, and the fixes the service began. -/
def request (service : ServiceConduct C U) (fixes : List PrivilegedFix) :
    Except ServiceError ServiceResponse × List PrivilegedFix :=
  match service.sendError with
  | some error => (.error error, [])
  | none =>
    let (response, run) := service.serve fixes
    match service.fate with
    | .answered =>
      (if troubleshootMatches fixes response then .ok response else .error .protocol, run)
    | .undecodable begun => (.error .protocol, run.take begun)
    | .timedOut begun => (.error .timedOut, run.take begun)
    | .dropped begun => (.error .disconnected, run.take begun)

/-- The session asks the service to run the batch. -/
def troubleshoot (service : ServiceConduct C U) (fixes : List PrivilegedFix) :
    Except ServiceError (List FixOutcome) × List PrivilegedFix :=
  match service.connectError with
  | some error => (.error error, [])
  | none =>
    match service.request fixes with
    | (.error error, begun) => (.error error, begun)
    | (.ok (.troubleshot outcomes), begun) =>
      (if outcomes.length = fixes.length then .ok outcomes else .error .protocol, begun)
    | (.ok .busy, begun) => (.error .busy, begun)
    | (.ok (.error code), begun) => (.error (.rejected code), begun)
    | (.ok _, begun) => (.error .protocol, begun)

end ServiceConduct

section Accepted

variable {C U : Type*}

/-- The batch reaches the service and passes every check before the first fix. -/
def ServiceConduct.Accepts (service : ServiceConduct C U) (fixes : List PrivilegedFix) : Prop :=
  service.connectError = none ∧ service.sendError = none ∧ service.knowsCommand = true ∧
    validateFixBatch fixes true = .ok () ∧
    ∃ client loop troubleshooter, service.client = some client ∧
      service.loop.startTroubleshoot client fixes = (loop, .ok troubleshooter)

/-- A batch the service begins to run is answered with its outcomes, and any other batch begins
nothing. -/
theorem ServiceConduct.serve_cases (service : ServiceConduct C U) (fixes : List PrivilegedFix) :
    (service.serve fixes).2 = [] ∨
      (service.connectError = none → service.sendError = none → service.Accepts fixes) ∧
        (service.serve fixes).2 = executed fixes ∧
        ∃ outcomes, outcomes.length = fixes.length ∧
          (service.serve fixes).1 = .troubleshot outcomes := by
  unfold serve
  cases hclient : service.client with
  | none => exact .inl rfl
  | some client =>
    cases hknows : service.knowsCommand with
    | false => exact .inl rfl
    | true =>
      cases hvalid : validateFixBatch fixes true with
      | error refused => exact .inl rfl
      | ok _ =>
        simp only [Bool.not_true, Bool.false_eq_true, if_false]
        rcases hstart : service.loop.startTroubleshoot client fixes with
          ⟨loop, response | troubleshooter⟩
        · exact .inl rfl
        · have hlength := length_runBatch troubleshooter.runFix fixes
          right
          refine ⟨fun hconnect hsend =>
            ⟨hconnect, hsend, hknows, hvalid, client, loop, troubleshooter, hclient, hstart⟩,
            rfl, runBatch troubleshooter.runFix fixes, hlength, ?_⟩
          exact if_pos hlength

/-- The service's part of an accepted batch. -/
theorem ServiceConduct.Accepts.serve {service : ServiceConduct C U} {fixes : List PrivilegedFix}
    (h : service.Accepts fixes) : (service.serve fixes).2 = executed fixes := by
  obtain ⟨-, -, hknows, hvalid, client, loop, troubleshooter, hclient, hstart⟩ := h
  unfold ServiceConduct.serve
  rw [hclient, hknows, hvalid]
  dsimp only
  rw [hstart]
  rfl

/-- What the session learns of a batch of which the service began a fix. -/
theorem ServiceConduct.troubleshoot_cases (service : ServiceConduct C U)
    (fixes : List PrivilegedFix) :
    (service.troubleshoot fixes).2 = [] ∨
      service.Accepts fixes ∧ ((service.troubleshoot fixes).2 <+: executed fixes) ∧
        ((service.troubleshoot fixes).1 = .error .protocol ∨
          (service.troubleshoot fixes).1 = .error .timedOut ∨
          (∃ outcomes, outcomes.length = fixes.length ∧
            (service.troubleshoot fixes).1 = .ok outcomes) ∨
          ∃ begun, service.fate = .dropped begun ∧
            service.troubleshoot fixes = (.error .disconnected, (executed fixes).take begun)) := by
  unfold ServiceConduct.troubleshoot
  cases hconnect : service.connectError with
  | some error => exact .inl rfl
  | none =>
    unfold ServiceConduct.request
    cases hsend : service.sendError with
    | some error => exact .inl rfl
    | none =>
      have hserve := service.serve_cases fixes
      rcases hanswer : service.serve fixes with ⟨response, run⟩
      rw [hanswer] at hserve
      rcases hserve with hnone | ⟨haccepts, hrun, outcomes, hlength, hresponse⟩
      · left
        subst hnone
        cases service.fate with
        | answered =>
          dsimp only
          by_cases hmatches : troubleshootMatches fixes response = true
          · rw [if_pos hmatches]
            cases response <;> rfl
          · rw [if_neg hmatches]
        | undecodable begun => exact List.take_nil
        | timedOut begun => exact List.take_nil
        | dropped begun => exact List.take_nil
      · right
        dsimp only at hrun hresponse
        subst hrun hresponse
        refine ⟨haccepts hconnect hsend, ?_⟩
        cases hfate : service.fate with
        | answered =>
          have hmatches : troubleshootMatches fixes (.troubleshot outcomes) = true :=
            beq_iff_eq.mpr hlength.symm
          dsimp only
          rw [hmatches, if_pos rfl]
          dsimp only
          rw [if_pos hlength]
          exact ⟨List.prefix_refl _, .inr (.inr (.inl ⟨outcomes, hlength, rfl⟩))⟩
        | undecodable begun => exact ⟨List.take_prefix _ _, .inl rfl⟩
        | timedOut begun => exact ⟨List.take_prefix _ _, .inr (.inl rfl)⟩
        | dropped begun =>
          exact ⟨List.take_prefix _ _, .inr (.inr (.inr ⟨begun, rfl, rfl⟩))⟩

end Accepted

namespace HelperConduct

/-- The fixes the elevated helper runs: the batch on its command line, when that may run. -/
def batch (fixes : List PrivilegedFix) : List PrivilegedFix :=
  ((parseHelperArguments (helperArguments fixes)).map executed).getD []

/-- The exit code of a helper that ran to its end. -/
def exitCode (runFix : PrivilegedFix → FixOutcome) (fixes : List PrivilegedFix) : Nat :=
  match parseHelperArguments (helperArguments fixes) with
  | none => 2
  | some fixes => encodeHelperExit (runBatch runFix fixes)

/-- The elevated helper is asked to run the batch: what it reports, whether its process was
started, and the fixes it began. -/
def runFixes (helper : HelperConduct) (fixes : List PrivilegedFix) :
    Except HelperError (List FixOutcome) × Bool × List PrivilegedFix :=
  match helper with
  | .dismissed => (.error .cancelled, false, [])
  | .notStarted => (.error .failed, false, [])
  | .ended runFix =>
    (match decodeHelperExit (exitCode runFix fixes) fixes.length with
      | some outcomes => .ok outcomes
      | none => .error .failed, true, batch fixes)
  | .lost begun => (.error .failed, true, (batch fixes).take begun)

end HelperConduct

section RunPrivileged

variable {C U : Type*}

/-- The helper runs the batch, after the service began these fixes of it. -/
def helperRun (fixes : List PrivilegedFix) (helper : HelperConduct)
    (byService : List PrivilegedFix) : BatchRun :=
  let (reported, started, begun) := helper.runFixes fixes
  ⟨match reported with
    | .ok outcomes => .ok outcomes
    | .error .cancelled => .error .cancelled
    | .error .failed => .error .failed, byService, started, begun⟩

/-- What follows on the service's answer, after the service began these fixes: the end of the
batch, or the helper. -/
def afterService (fixes : List PrivilegedFix) (helper : HelperConduct)
    (answer : Except ServiceError (List FixOutcome)) (byService : List PrivilegedFix) : BatchRun :=
  let gaveUp (error : BatchError) : BatchRun := ⟨.error error, byService, false, []⟩
  match answer with
  | .ok outcomes =>
    if outcomes.length = fixes.length then ⟨.ok outcomes, byService, false, []⟩
    else gaveUp .failed
  | .error .protocol => gaveUp .failed
  | .error (.rejected .authenticationFailed) => helperRun fixes helper byService
  | .error (.rejected .invalidRequest) => gaveUp .serviceTooOld
  | .error (.rejected .notReady) => gaveUp .tunnelUp
  | .error .busy => gaveUp .busy
  | .error .timedOut | .error (.rejected _) | .error (.tunRejected _) => gaveUp .failed
  | .error .notInstalled | .error .unavailable | .error .impostor | .error .inUse
  | .error .disconnected => helperRun fixes helper byService

/-- Runs a privileged batch through the service when it is there, and otherwise through the
elevated helper. -/
def runPrivileged (fixes : List PrivilegedFix) (service : Option (ServiceConduct C U))
    (helper : HelperConduct) : BatchRun :=
  match service.filter fun service =>
      fixes.all PrivilegedFix.serviceMayRun && service.available with
  | none => helperRun fixes helper []
  | some service =>
    let (answer, byService) := service.troubleshoot fixes
    afterService fixes helper answer byService

end RunPrivileged

section OneWay

variable {C U : Type*}

/-- The elevated helper's process starts. -/
def HelperConduct.Starts : HelperConduct → Prop
  | .dismissed | .notStarted => False
  | .ended _ | .lost _ => True

/-- The service is used for the batch, begins a fix of it, and the channel drops before the
answer is read. -/
def DroppedMidBatch (fixes : List PrivilegedFix) (service : Option (ServiceConduct C U)) : Prop :=
  ∃ conduct begun, service = some conduct ∧ fixes.all PrivilegedFix.serviceMayRun = true ∧
    conduct.available = true ∧ conduct.Accepts fixes ∧ conduct.fate = .dropped begun ∧ 0 < begun

/-- No fix of an accepted batch runs twice. -/
theorem nodup_executed {fixes : List PrivilegedFix} {forService : Bool}
    (h : validateFixBatch fixes forService = .ok ()) : (executed fixes).Nodup :=
  (executed_perm fixes).nodup_iff.mpr (nodup_of_validateFixBatch h)

/-- The helper runs no fix twice, whatever batch it is asked for. -/
theorem HelperConduct.nodup_batch (fixes : List PrivilegedFix) : (batch fixes).Nodup := by
  unfold batch
  rw [parseHelperArguments_helperArguments]
  cases hvalid : validateFixBatch fixes false with
  | error refused => exact List.nodup_nil
  | ok _ => exact nodup_executed hvalid

/-- What the helper begins is part of its batch, and nothing where it does not start. -/
theorem HelperConduct.runFixes_begun (helper : HelperConduct) (fixes : List PrivilegedFix) :
    (helper.runFixes fixes).2.2 <+: batch fixes ∧
      ((helper.runFixes fixes).2.1 = true ↔ helper.Starts) ∧
      (¬ helper.Starts → (helper.runFixes fixes).2.2 = []) := by
  cases helper with
  | dismissed => exact ⟨List.nil_prefix, by simp [runFixes, Starts], fun _ => rfl⟩
  | notStarted => exact ⟨List.nil_prefix, by simp [runFixes, Starts], fun _ => rfl⟩
  | ended runFix =>
    exact ⟨List.prefix_refl _, by simp [runFixes, Starts], fun h => absurd trivial h⟩
  | lost begun =>
    exact ⟨List.take_prefix _ _, by simp [runFixes, Starts], fun h => absurd trivial h⟩

/-- An accepted batch is not empty. -/
theorem executed_ne_nil {fixes : List PrivilegedFix} {forService : Bool}
    (h : validateFixBatch fixes forService = .ok ()) : executed fixes ≠ [] := by
  intro hnil
  have hfixes : fixes = [] := (hnil ▸ executed_perm fixes).nil_eq.symm
  rw [hfixes] at h
  exact (nomatch h)

/-- On any answer the batch ends there, or the helper is asked for it. -/
theorem afterService_cases (fixes : List PrivilegedFix) (helper : HelperConduct)
    (answer : Except ServiceError (List FixOutcome)) (byService : List PrivilegedFix) :
    ((afterService fixes helper answer byService).helperStarted = false ∧
        (afterService fixes helper answer byService).byHelper = [] ∧
        (afterService fixes helper answer byService).byService = byService) ∨
      afterService fixes helper answer byService = helperRun fixes helper byService := by
  unfold afterService
  dsimp only
  rcases answer with error | outcomes
  · rcases error with _ | _ | _ | _ | _ | _ | _ | _ | code | code
    case rejected => cases code <;> simp
    all_goals simp
  · left
    by_cases hlength : outcomes.length = fixes.length
    · simp [hlength]
    · simp [hlength]

/-- How a batch ends: the helper is not asked, or it is asked after the service began nothing, or
it is asked after the channel dropped. -/
theorem runPrivileged_cases (fixes : List PrivilegedFix) (service : Option (ServiceConduct C U))
    (helper : HelperConduct) :
    ((runPrivileged fixes service helper).helperStarted = false ∧
        (runPrivileged fixes service helper).byHelper = [] ∧
        (runPrivileged fixes service helper).byService.Nodup) ∨
      runPrivileged fixes service helper = helperRun fixes helper [] ∨
      ∃ conduct begun, service = some conduct ∧
        fixes.all PrivilegedFix.serviceMayRun = true ∧ conduct.available = true ∧
        conduct.Accepts fixes ∧ conduct.fate = .dropped begun ∧
        runPrivileged fixes service helper =
          helperRun fixes helper ((executed fixes).take begun) := by
  unfold runPrivileged
  cases hused : service.filter
      fun service => fixes.all PrivilegedFix.serviceMayRun && service.available with
  | none => exact .inr (.inl rfl)
  | some conduct =>
    obtain ⟨hservice, hmay⟩ := Option.filter_eq_some_iff.mp hused
    obtain ⟨hvia, havailable⟩ := Bool.and_eq_true_iff.mp hmay
    have hcases := conduct.troubleshoot_cases fixes
    rcases htroubleshoot : conduct.troubleshoot fixes with ⟨answer, byService⟩
    rw [htroubleshoot] at hcases
    dsimp only at hcases ⊢
    rw [htroubleshoot]
    dsimp only
    rcases hcases with rfl | ⟨haccepts, hprefix, hanswer⟩
    · rcases afterService_cases fixes helper answer [] with ⟨hstarted, hhelper, hservice⟩ | hasked
      · exact .inl ⟨hstarted, hhelper, by rw [hservice]; exact List.nodup_nil⟩
      · exact .inr (.inl hasked)
    · have hnodup : byService.Nodup :=
        (nodup_executed haccepts.2.2.2.1).sublist hprefix.sublist
      rcases hanswer with rfl | rfl | ⟨outcomes, hlength, rfl⟩ | ⟨begun, hfate, hdropped⟩
      · exact .inl ⟨rfl, rfl, hnodup⟩
      · exact .inl ⟨rfl, rfl, hnodup⟩
      · left
        unfold afterService
        dsimp only
        rw [if_pos hlength]
        exact ⟨rfl, rfl, hnodup⟩
      · obtain ⟨rfl, rfl⟩ := Prod.mk.inj hdropped
        exact .inr (.inr ⟨conduct, begun, hservice, hvia, havailable, haccepts, hfate, rfl⟩)

/-- A batch whose channel drops goes to the helper. -/
theorem runPrivileged_dropped {fixes : List PrivilegedFix} {conduct : ServiceConduct C U}
    {begun : Nat} (helper : HelperConduct)
    (hvia : fixes.all PrivilegedFix.serviceMayRun = true) (havailable : conduct.available = true)
    (haccepts : conduct.Accepts fixes) (hfate : conduct.fate = .dropped begun) :
    runPrivileged fixes (some conduct) helper =
      helperRun fixes helper ((executed fixes).take begun) := by
  have htroubleshoot :
      conduct.troubleshoot fixes = (.error .disconnected, (executed fixes).take begun) := by
    unfold ServiceConduct.troubleshoot ServiceConduct.request
    rw [haccepts.1, haccepts.2.1, hfate]
    dsimp only
    rw [haccepts.serve]
  unfold runPrivileged
  have hused : (true && true) = true := rfl
  rw [Option.filter_some, hvia, havailable, if_pos hused]
  dsimp only
  rw [htroubleshoot]
  rfl

/-- A batch runs one way exactly when the service's channel does not drop after it began a fix,
or the helper is not started then. -/
theorem batch_runs_one_way (fixes : List PrivilegedFix) (service : Option (ServiceConduct C U))
    (helper : HelperConduct) :
    (runPrivileged fixes service helper).OneWay ↔
      ¬ (DroppedMidBatch fixes service ∧ helper.Starts) := by
  obtain ⟨hpart, hstarts, hidle⟩ := helper.runFixes_begun fixes
  constructor
  · rintro ⟨honly, -⟩ ⟨⟨conduct, begun, rfl, hvia, havailable, haccepts, hfate, hbegun⟩, hhelper⟩
    rw [runPrivileged_dropped helper hvia havailable haccepts hfate] at honly
    have hnone : (executed fixes).take begun = [] := honly (hstarts.mpr hhelper)
    rw [List.take_eq_nil_iff] at hnone
    rcases hnone with hzero | hnil
    · omega
    · exact executed_ne_nil haccepts.2.2.2.1 hnil
  · intro hexcept
    have hnothing : (helperRun fixes helper []).OneWay :=
      ⟨fun _ => rfl, List.nodup_iff_count_le_one.mp
        ((HelperConduct.nodup_batch fixes).sublist hpart.sublist)⟩
    rcases runPrivileged_cases fixes service helper with ⟨hstarted, hhelper, hnodup⟩ | hasked |
      ⟨conduct, begun, hservice, hvia, havailable, haccepts, hfate, hasked⟩
    · refine ⟨fun h => (nomatch hstarted.symm.trans h), ?_⟩
      rw [hhelper, List.append_nil]
      exact List.nodup_iff_count_le_one.mp hnodup
    · exact hasked ▸ hnothing
    · by_cases hbegun : begun = 0
      · rw [hasked, hbegun]
        exact hnothing
      · have hnot : ¬ helper.Starts := fun h => hexcept
          ⟨⟨conduct, begun, hservice, hvia, havailable, haccepts, hfate, by omega⟩, h⟩
        have hnodup : ((executed fixes).take begun).Nodup :=
          (nodup_executed haccepts.2.2.2.1).sublist (List.take_sublist _ _)
        rw [hasked]
        refine ⟨fun h => absurd (hstarts.mp h) hnot, ?_⟩
        have hhelper : (helperRun fixes helper ((executed fixes).take begun)).byHelper = [] :=
          hidle hnot
        rw [hhelper, List.append_nil]
        exact List.nodup_iff_count_le_one.mp hnodup

/-- A service that begins the only fix of a batch before its channel drops. -/
def droppingService : ServiceConduct Unit Unit where
  available := true
  connectError := none
  sendError := none
  client := some ⟨"1:user", "data", 0, true⟩
  knowsCommand := true
  loop := ServiceLoop.new () none none (some ⟨fun _ => .done⟩) none
  fate := .dropped 1

/-- Over the dropped channel the fix the service began runs again in the helper. -/
theorem batch_runs_one_way_dropped :
    ¬ (runPrivileged [.winsockReset] (some droppingService) (.ended fun _ => .done)).OneWay := by
  have hexecuted : executed [.winsockReset] = [.winsockReset] := by
    simp [executed, executionOrder]
  have hrun := runPrivileged_dropped (.ended fun _ => .done) rfl rfl
    (⟨rfl, rfl, rfl, rfl, _, _, _, rfl, rfl⟩ :
      droppingService.Accepts [.winsockReset]) (rfl : droppingService.fate = .dropped 1)
  rw [hrun, hexecuted]
  rintro ⟨honly, -⟩
  exact (nomatch honly rfl)

end OneWay

section RunFixes

/-- One fix of the report, as the user confirms it. -/
inductive FixId where
  | deleteDrover
  | privileged (fix : PrivilegedFix)
  deriving DecidableEq, Repr

/-- Outcome of deleting Drover's files. -/
inductive DroverRemoval where
  | removed
  | nothingFound
  | discordRunning
  | failed
  deriving DecidableEq, Repr

/-- Whether a successful fix only takes effect after a reboot. -/
def needsReboot (fix : PrivilegedFix) (outcome : FixOutcome) : Bool :=
  outcome == .done &&
    match fix with
    | .winsockReset | .removeDpiService _ => true
    | _ => false

/-- What one confirmation led to. -/
structure FixReport where
  drover : Option DroverRemoval
  batch : Option BatchRun
  rebootRecommended : Bool

/-- The privileged fixes among the confirmed ones. -/
def privilegedFixes (fixes : List FixId) : List PrivilegedFix :=
  fixes.filterMap fun fix =>
    match fix with
    | .privileged fix => some fix
    | .deleteDrover => none

variable {C U : Type*}

/-- Runs confirmed fixes: Drover's files here, the privileged ones in one batch. -/
def runFixes (fixes : List FixId) (removeDrover : DroverRemoval)
    (service : Option (ServiceConduct C U)) (helper : HelperConduct) : FixReport :=
  let drover := if fixes.contains .deleteDrover then some removeDrover else none
  let batch := privilegedFixes fixes
  if batch.isEmpty then ⟨drover, none, false⟩
  else
    let run := runPrivileged batch service helper
    ⟨drover, some run,
      match run.result with
      | .ok outcomes => (batch.zip outcomes).any fun (fix, outcome) => needsReboot fix outcome
      | .error _ => false⟩

/-- One confirmation asks the service, and then perhaps the helper, for one batch: the confirmed
privileged fixes, in their order. -/
theorem runFixes_batch {fixes : List FixId} {removeDrover : DroverRemoval}
    {service : Option (ServiceConduct C U)} {helper : HelperConduct} {run : BatchRun}
    (h : (runFixes fixes removeDrover service helper).batch = some run) :
    run = runPrivileged (privilegedFixes fixes) service helper := by
  unfold runFixes at h
  by_cases hempty : (privilegedFixes fixes).isEmpty = true
  · rw [if_pos hempty] at h
    exact (nomatch h)
  · rw [if_neg hempty] at h
    exact (Option.some.inj h).symm

end RunFixes

end MultiCore.Daemon
