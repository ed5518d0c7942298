import Mathlib.Data.List.Dedup
import MultiCore.Library.Text
import MultiCore.Service.Protocol

/-!
# Batches of privileged fixes

What a batch of troubleshooting fixes may hold, the order in which it runs, and
how the elevated helper gets its batch and reports the outcomes: tokens on its
command line, and an exit code. The fixes themselves are an arbitrary function.
-/

namespace MultiCore

/-- The command-line token of a packet-filter service. -/
def DpiService.token : DpiService → String
  | .winDivert => "windivert"
  | .winDivert14 => "windivert14"
  | .zapret => "zapret"
  | .goodbyeDpi => "goodbyedpi"

/-- The services that are looked for. -/
def DpiService.all : List DpiService := [.winDivert, .winDivert14, .zapret, .goodbyeDpi]

/-- `DpiService::from_token`. -/
def DpiService.fromToken (token : String) : Option DpiService :=
  DpiService.all.find? fun service => service.token == token

namespace PrivilegedFix

/-- The command-line token of the elevated helper. -/
def token : PrivilegedFix → String
  | .winsockReset => "winsock-reset"
  | .winhttpResetProxy => "winhttp-reset-proxy"
  | .resyncTime => "resync-time"
  | .removeDpiService service => "remove-dpi-service:" ++ service.token
  | .reinstallWintun => "reinstall-wintun"
  | .reinstallService => "reinstall-service"

/-- Exactly what `token` produces is parsed. -/
def parseToken (token : String) : Option PrivilegedFix :=
  if token = "winsock-reset" then some .winsockReset
  else if token = "winhttp-reset-proxy" then some .winhttpResetProxy
  else if token = "resync-time" then some .resyncTime
  else if token = "reinstall-wintun" then some .reinstallWintun
  else if token = "reinstall-service" then some .reinstallService
  else do
    let service ← Text.stripPrefix token "remove-dpi-service:"
    return .removeDpiService (← DpiService.fromToken service)

/-- Position in a batch: a service before the driver it keeps loaded, and last the fix that
wants a reboot. -/
def rank : PrivilegedFix → Nat
  | .removeDpiService .zapret | .removeDpiService .goodbyeDpi => 0
  | .removeDpiService _ => 1
  | .winhttpResetProxy => 2
  | .resyncTime => 3
  | .reinstallWintun => 4
  | .reinstallService => 5
  | .winsockReset => 6

/-- Everything but the re-registration of the service itself. -/
def serviceMayRun (fix : PrivilegedFix) : Bool := fix != .reinstallService

theorem parseToken_token (fix : PrivilegedFix) : parseToken fix.token = some fix := by
  rcases fix with _ | _ | _ | service | _ | _
  case removeDpiService =>
    cases service <;> decide
  all_goals decide

end PrivilegedFix

/-- Why a batch of fixes is refused before anything runs. -/
inductive FixBatchError where
  | empty
  | tooMany
  | duplicate
  /-- The re-registration of the service, asked of the service. -/
  | notForService
  | serviceReinstallNotAlone
  deriving DecidableEq, Repr

/-- The most fixes one request may carry; also what the helper's exit code can report. -/
def maxPrivilegedFixes : Nat := 8

/-- Whether a batch may run at all, by the service or by the helper. -/
def validateFixBatch (fixes : List PrivilegedFix) (forService : Bool) :
    Except FixBatchError Unit :=
  if fixes.isEmpty then .error .empty
  else if maxPrivilegedFixes < fixes.length then .error .tooMany
  else if fixes.dedup.length ≠ fixes.length then .error .duplicate
  else if fixes.contains .reinstallService then
    if forService then .error .notForService
    else if fixes.length ≠ 1 then .error .serviceReinstallNotAlone
    else .ok ()
  else .ok ()

/-- An accepted batch names no fix twice. -/
theorem nodup_of_validateFixBatch {fixes : List PrivilegedFix} {forService : Bool}
    (h : validateFixBatch fixes forService = .ok ()) : fixes.Nodup := by
  unfold validateFixBatch at h
  by_cases hempty : fixes.isEmpty
  · rw [if_pos hempty] at h
    exact (nomatch h)
  rw [if_neg hempty] at h
  by_cases hmany : maxPrivilegedFixes < fixes.length
  · rw [if_pos hmany] at h
    exact (nomatch h)
  rw [if_neg hmany] at h
  by_cases hlength : fixes.dedup.length ≠ fixes.length
  · rw [if_pos hlength] at h
    exact (nomatch h)
  have hdedup : fixes.dedup = fixes :=
    (List.dedup_sublist fixes).eq_of_length (not_not.mp hlength)
  exact List.dedup_eq_self.mp hdedup

/-- The order in which a batch runs, as indices into it. -/
def executionOrder (fixes : List PrivilegedFix) : List Nat :=
  let key (index : Nat) : Nat := (fixes[index]?.map PrivilegedFix.rank).getD 0
  (List.range fixes.length).mergeSort fun a b =>
    key a < key b || (key a == key b && a ≤ b)

/-- Every index runs exactly once. -/
theorem executionOrder_perm (fixes : List PrivilegedFix) :
    (executionOrder fixes).Perm (List.range fixes.length) :=
  List.mergeSort_perm _ _

/-- The fixes of a batch as they run, one after the other. -/
def executed (fixes : List PrivilegedFix) : List PrivilegedFix :=
  (executionOrder fixes).filterMap fun index => fixes[index]?

/-- The fixes that run are the fixes of the batch. -/
theorem executed_perm (fixes : List PrivilegedFix) : (executed fixes).Perm fixes := by
  have hall : (List.range fixes.length).filterMap (fun index => fixes[index]?) = fixes := by
    induction fixes with
    | nil => rfl
    | cons fix rest ih =>
      rw [List.length_cons, List.range_succ_eq_map]
      simp only [List.filterMap_cons, List.getElem?_cons_zero, List.filterMap_map]
      exact congrArg (fix :: ·) ih
  have h := (executionOrder_perm fixes).filterMap fun index => fixes[index]?
  rw [hall] at h
  exact h

/-- One fix of a batch ran: its outcome is noted at its index. -/
def reported (runFix : PrivilegedFix → FixOutcome) (fixes : List PrivilegedFix)
    (outcomes : List FixOutcome) (index : Nat) : List FixOutcome :=
  match fixes[index]? with
  | some fix => outcomes.set index (runFix fix)
  | none => outcomes

theorem length_reported (runFix : PrivilegedFix → FixOutcome) (fixes : List PrivilegedFix)
    (outcomes : List FixOutcome) (index : Nat) :
    (reported runFix fixes outcomes index).length = outcomes.length := by
  unfold reported
  cases fixes[index]? with
  | none => rfl
  | some fix => exact List.length_set

theorem getElem?_reported {runFix : PrivilegedFix → FixOutcome} {fixes : List PrivilegedFix}
    {outcomes : List FixOutcome} {index i : Nat} (hlength : outcomes.length = fixes.length) :
    (reported runFix fixes outcomes index)[i]? =
      if i = index then (fixes[i]?).map runFix else outcomes[i]? := by
  unfold reported
  by_cases hi : i = index
  · subst hi
    rw [if_pos rfl]
    cases hfix : fixes[i]? with
    | none =>
      rw [List.getElem?_eq_none_iff] at hfix
      exact List.getElem?_eq_none (hlength ▸ hfix)
    | some fix =>
      have hi : i < outcomes.length := hlength ▸ (List.getElem?_eq_some_iff.mp hfix).1
      exact List.getElem?_set_self hi
  · rw [if_neg hi]
    cases fixes[index]? with
    | none => rfl
    | some fix => exact List.getElem?_set_ne (Ne.symm hi)

/-- Runs a batch in its order and reports one outcome per fix, in the order of the request. -/
def runBatch (runFix : PrivilegedFix → FixOutcome) (fixes : List PrivilegedFix) :
    List FixOutcome :=
  (executionOrder fixes).foldl (reported runFix fixes) (List.replicate fixes.length .failed)

/-- Every fix reports its own outcome in its own place, whatever the order of the run. -/
theorem runBatch_eq_map (runFix : PrivilegedFix → FixOutcome) (fixes : List PrivilegedFix) :
    runBatch runFix fixes = fixes.map runFix := by
  have hrun : ∀ (order : List Nat) (outcomes : List FixOutcome) (i : Nat),
      outcomes.length = fixes.length →
      (order.foldl (reported runFix fixes) outcomes)[i]? =
        if i ∈ order then (fixes[i]?).map runFix else outcomes[i]? := by
    intro order
    induction order with
    | nil =>
      intro outcomes i _
      rw [List.foldl_nil, if_neg (List.not_mem_nil)]
    | cons index rest ih =>
      intro outcomes i hlength
      rw [List.foldl_cons, ih _ i ((length_reported ..).trans hlength)]
      by_cases hrest : i ∈ rest
      · rw [if_pos hrest, if_pos (List.mem_cons_of_mem _ hrest)]
      rw [if_neg hrest, getElem?_reported hlength]
      by_cases hi : i = index
      · rw [if_pos hi, if_pos (hi ▸ List.mem_cons_self)]
      · rw [if_neg hi, if_neg (by simp [hi, hrest])]
  apply List.ext_getElem?
  intro i
  rw [runBatch, hrun _ _ i List.length_replicate, List.getElem?_map]
  by_cases hi : i ∈ executionOrder fixes
  · rw [if_pos hi]
  · rw [if_neg hi]
    have hlength : fixes.length ≤ i := by
      rw [(executionOrder_perm fixes).mem_iff, List.mem_range] at hi
      omega
    rw [List.getElem?_eq_none (by simpa using hlength), List.getElem?_eq_none hlength]
    rfl

theorem length_runBatch (runFix : PrivilegedFix → FixOutcome) (fixes : List PrivilegedFix) :
    (runBatch runFix fixes).length = fixes.length := by
  rw [runBatch_eq_map, List.length_map]

/-- The high half of every exit code the helper writes. -/
def helperExitMarker : Nat := 0x4D430000

/-- Two bits of an exit code. -/
def FixOutcome.bits : FixOutcome → Nat
  | .done => 1
  | .nothingToDo => 2
  | .failed => 3

/-- The outcome behind two bits of the exit code. -/
def FixOutcome.ofBits : Nat → Option FixOutcome
  | 1 => some .done
  | 2 => some .nothingToDo
  | 3 => some .failed
  | _ => none

/-- The outcomes as an exit code, two bits per fix. -/
def encodeHelperExit (outcomes : List FixOutcome) : Nat :=
  (outcomes.take maxPrivilegedFixes).zipIdx.foldl
    (fun code (outcome, index) => code ||| outcome.bits <<< (index * 2)) helperExitMarker

/-- The outcomes of `count` fixes, when the exit code is one the helper writes. -/
def decodeHelperExit (code count : Nat) : Option (List FixOutcome) :=
  if code &&& 0xFFFF0000 ≠ helperExitMarker || count == 0 || maxPrivilegedFixes < count then
    none
  else if count < maxPrivilegedFixes && (code &&& 0xFFFF) >>> (count * 2) ≠ 0 then none
  else (List.range count).mapM fun index => FixOutcome.ofBits (code >>> (index * 2) &&& 3)

/-- The first argument of the elevated helper. -/
def helperFlag : String := "--troubleshoot"

/-- The helper's command line for a batch. -/
def helperArguments (fixes : List PrivilegedFix) : List String :=
  helperFlag :: fixes.map PrivilegedFix.token

/-- The batch on the helper's command line, when it may run. -/
def parseHelperArguments : List String → Option (List PrivilegedFix)
  | [] => none
  | flag :: tokens =>
    if flag ≠ helperFlag then none
    else do
      let fixes ← tokens.mapM PrivilegedFix.parseToken
      match validateFixBatch fixes false with
      | .ok () => some fixes
      | .error _ => none

/-- The helper reads back the batch it was started for, when that batch may run. -/
theorem parseHelperArguments_helperArguments (fixes : List PrivilegedFix) :
    parseHelperArguments (helperArguments fixes) =
      match validateFixBatch fixes false with
      | .ok () => some fixes
      | .error _ => none := by
  have htokens : (fixes.map PrivilegedFix.token).mapM PrivilegedFix.parseToken = some fixes := by
    induction fixes with
    | nil => rfl
    | cons fix rest ih =>
      rw [List.map_cons, List.mapM_cons, PrivilegedFix.parseToken_token, ih]
      rfl
  have hparse : parseHelperArguments (helperArguments fixes) =
      if helperFlag ≠ helperFlag then none
      else (fixes.map PrivilegedFix.token).mapM PrivilegedFix.parseToken >>= fun fixes =>
        match validateFixBatch fixes false with
        | .ok () => some fixes
        | .error _ => none := rfl
  rw [hparse, if_neg (not_not.mpr rfl), htokens]
  rfl

end MultiCore
