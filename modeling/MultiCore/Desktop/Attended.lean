import MultiCore.Desktop.Holds

/-!
# What the power switch waits for

Whatever the switch waits for is in flight, or the shell is asked to begin it. Every
operation keeps this, a refresh that supersedes an import apart.
-/

namespace MultiCore.Desktop

/-! ## What is waited for -/

/-- Whether a request is about one profile. -/
def Request.isProfile : Request → Bool
  | profile _ _ => true
  | _ => false

namespace Hold

/-- The request behind the mutation that is waited for. -/
def mutationRequests (hold : Hold) : List Request :=
  (hold.mutation.map fun active => .mutation active.kind active.token).toList

/-- The request behind the profile operation that is waited for. -/
def profileRequests (hold : Hold) : List Request :=
  (hold.profile.map fun active => .profile active.operation active.token).toList

/-- The requests whose answers the switch waits for. -/
def waiting (hold : Hold) : List Request :=
  hold.mutationRequests ++ hold.profileRequests ++ (hold.listRequest.map .profileList).toList ++
    (hold.catalogRequest.map .catalog).toList ++ (hold.selection.map .selection).toList

/-- What is waited for, case by case. -/
theorem mem_waiting {hold : Hold} {request : Request} :
    request ∈ hold.waiting ↔ request ∈ hold.mutationRequests ∨ request ∈ hold.profileRequests ∨
      hold.listRequest.map .profileList = some request ∨
      hold.catalogRequest.map .catalog = some request ∨
      hold.selection.map .selection = some request := by
  simp only [waiting, List.mem_append, Option.mem_toList, or_assoc]

/-- An invalidation only takes requests from those waited for. -/
theorem waiting_invalidate {hold : Hold} {request : Request}
    (h : request ∈ hold.invalidate.waiting) : request ∈ hold.waiting := by
  rw [mem_waiting] at h ⊢
  rcases h with h | h | h | h | h
  · exact Or.inl h
  · exact Or.inr (Or.inl h)
  · exact Or.inr (Or.inr (Or.inl h))
  · exact nomatch h
  · exact nomatch h

/-- Nothing of the profiles and of the routes is waited for. -/
def Settled (hold : Hold) : Prop :=
  hold.reconciling = false ∧ hold.selection = none ∧ hold.catalogRequired = false

end Hold

/-- Whatever the switch waits for is in flight, or the shell is asked to begin it. -/
structure Attended (hold : Hold) (inFlight : List Request) (asked : Bool) : Prop where
  waited : ∀ request ∈ hold.waiting, request ∈ inFlight
  epoch : ∀ active, hold.mutation = some active → active.profileEpoch = hold.epoch
  importing : hold.importing = true → hold.Settled ∧
    ∃ active, hold.mutation = some active ∧ active.kind = .import
  profiles : inFlight.filter Request.isProfile = hold.profileRequests
  profile : hold.profile.isSome = true → hold.Settled ∧ hold.importing = false ∧
    ∀ active, hold.mutation = some active → active.kind = .refresh
  refreshing : ∀ active, hold.mutation = some active → active.kind = .refresh →
    hold.statusReload = false
  statusReload : hold.statusReload = true → hold.statusPending = true
  status : hold.statusPending = true → hold.statusReload = true ∨
    ∃ active, hold.mutation = some active ∧ active.kind = .refresh
  list : hold.listPending = true → hold.listReload = true ∨ hold.listRequest.isSome = true
  catalog : hold.catalogPending = true → hold.catalogReload = true ∨
    hold.catalogRequest.isSome = true ∨ hold.statusPending = true ∨ hold.listPending = true
  selection : hold.selection.isSome = true → hold.reconciling = false ∧ hold.catalogRequired = false
  catalogRequired : hold.catalogRequired = true → hold.reconciling = false ∧
    (hold.catalogRequest.isSome = true ∨ asked = true)

namespace Attended

section

variable {hold : Hold} {inFlight : List Request} {asked : Bool}

/-- A new model waits for nothing. -/
theorem initial : Attended DesktopViewModel.new.hold [] false where
  waited := fun _ h => nomatch h
  epoch := fun _ h => nomatch h
  importing := fun h => nomatch h
  profiles := rfl
  profile := fun h => nomatch h
  refreshing := fun _ h => nomatch h
  statusReload := fun h => nomatch h
  status := fun h => nomatch h
  list := fun h => nomatch h
  catalog := fun h => nomatch h
  selection := fun h => nomatch h
  catalogRequired := fun h => nomatch h

/-- New requests that are of no profile are attended. -/
theorem began (h : Attended hold inFlight asked) (requests : List Request)
    (hrequests : requests.filter Request.isProfile = []) :
    Attended hold (requests ++ inFlight) asked :=
  { h with
    waited := fun request hwaits => List.mem_append_right _ (h.waited request hwaits)
    profiles := by rw [List.filter_append, hrequests, List.nil_append, h.profiles] }

/-- In flight is the one request for a profile that is waited for. -/
theorem mem_profileRequests (h : Attended hold inFlight asked) {request : Request}
    (hmem : request ∈ inFlight) (hprofile : request.isProfile = true) :
    request ∈ hold.profileRequests := by
  rw [← h.profiles]
  exact List.mem_filter.2 ⟨hmem, hprofile⟩

/-- An answer that nothing waits for changes nothing. -/
theorem erase (h : Attended hold inFlight asked) {request : Request}
    (hignored : request ∉ hold.waiting) : Attended hold (inFlight.erase request) asked :=
  { h with
    waited := fun other hwaits => by
      have hne : other ≠ request := by
        rintro rfl
        exact hignored hwaits
      exact (List.mem_erase_of_ne hne).2 (h.waited other hwaits)
    profiles := by
      have hother : request ∉ inFlight.filter Request.isProfile := by
        intro hmem
        obtain ⟨hmem, hprofile⟩ := List.mem_filter.1 hmem
        exact hignored (Hold.mem_waiting.2 (Or.inr (Or.inl (h.mem_profileRequests hmem hprofile))))
      rw [← List.erase_filter, List.erase_of_not_mem hother, h.profiles] }

/-- What is invalidated is armed to be read again. -/
theorem invalidate_arm (h : Attended hold inFlight asked) :
    Attended hold.invalidate.arm inFlight asked where
  waited request hwaits := h.waited request (Hold.waiting_invalidate hwaits)
  epoch := h.epoch
  importing himporting := by
    obtain ⟨hsettled, hactive⟩ := h.importing himporting
    exact ⟨⟨hsettled.1, rfl, rfl⟩, hactive⟩
  profiles := h.profiles
  profile hprofile := by
    obtain ⟨hsettled, hrest⟩ := h.profile hprofile
    exact ⟨⟨hsettled.1, rfl, rfl⟩, hrest⟩
  refreshing := h.refreshing
  statusReload := h.statusReload
  status := h.status
  list := h.list
  catalog hpending := by
    have hpending : hold.catalogPending = true := hpending
    cases hstatus : hold.statusPending with
    | true => exact Or.inr (Or.inr (Or.inl hstatus))
    | false =>
      cases hlist : hold.listPending with
      | true => exact Or.inr (Or.inr (Or.inr hlist))
      | false =>
        left
        simp [Hold.arm, Hold.invalidate, hpending, hstatus, hlist]
  selection hselection := nomatch hselection
  catalogRequired hrequired := nomatch hrequired

/-- A status that is applied leaves the switch as it was, or forgets the catalog. -/
theorem applied (h : Attended hold inFlight asked) {after : Hold}
    (happlied : after = hold ∨ after = hold.invalidate.arm) : Attended after inFlight asked := by
  rcases happlied with rfl | rfl
  · exact h
  · exact h.invalidate_arm

/-- When no mutation and no change of a profile is under way, anything may be required that is asked
for. -/
theorem idle (hwaited : ∀ request ∈ hold.waiting, request ∈ inFlight)
    (hflight : inFlight.filter Request.isProfile = []) (hmutation : hold.mutation = none)
    (himporting : hold.importing = false) (hprofile : hold.profile = none)
    (hselection : hold.selection = none) (hrequired : hold.catalogRequired = false)
    (hstatus : hold.statusReload = hold.statusPending)
    (hlist : hold.listPending = true → hold.listReload = true)
    (hcatalog : hold.catalogPending = true → hold.catalogReload = true) :
    Attended hold inFlight asked where
  waited := hwaited
  epoch active hactive := nomatch hmutation.symm.trans hactive
  importing himport := nomatch himporting.symm.trans himport
  profiles := by rw [hflight, Hold.profileRequests, hprofile]; rfl
  profile hsome := by
    rw [hprofile] at hsome
    exact nomatch hsome
  refreshing active hactive := nomatch hmutation.symm.trans hactive
  statusReload := hstatus.symm.trans
  status hpending := Or.inl (hstatus.trans hpending)
  list hpending := Or.inl (hlist hpending)
  catalog hpending := Or.inl (hcatalog hpending)
  selection hsome := by
    rw [hselection] at hsome
    exact nomatch hsome
  catalogRequired hsome := nomatch hrequired.symm.trans hsome

/-- After a change of the profiles the list is asked for again. -/
theorem advanced (h : Attended hold inFlight asked) (hmutation : hold.mutation = none) :
    Attended { hold with listRequest := none, listReload := true, epoch := hold.epoch + 1 }
      inFlight asked :=
  { h with
    waited := by
      intro request hrequest
      refine h.waited request (Hold.mem_waiting.2 ?_)
      rcases Hold.mem_waiting.1 hrequest with hmutation | hprofile | hlist | hrest
      · exact Or.inl hmutation
      · exact Or.inr (Or.inl hprofile)
      · exact nomatch hlist
      · exact Or.inr (Or.inr (Or.inr hrest))
    epoch := fun _ hactive => nomatch hmutation.symm.trans hactive
    profiles := h.profiles
    list := fun _ => Or.inl rfl }

/-- The reload of the list may be remembered at any time. -/
theorem reloadList (h : Attended hold inFlight asked) :
    Attended { hold with listReload := true } inFlight asked :=
  { h with
    waited := h.waited
    profiles := h.profiles
    list := fun _ => Or.inl rfl }

/-- The reload of the catalog may be remembered at any time. -/
theorem reloadCatalog (h : Attended hold inFlight asked) :
    Attended { hold with catalogReload := true } inFlight asked :=
  { h with
    waited := h.waited
    profiles := h.profiles
    catalog := fun _ => Or.inl rfl }

/-- What is still waited for after an answer is in flight after it. -/
theorem waited_erase (h : Attended hold inFlight asked) {after : Hold} {request : Request}
    (hrest : ∀ other ∈ after.waiting, other ∈ hold.waiting ∧ other ≠ request) :
    ∀ other ∈ after.waiting, other ∈ inFlight.erase request := by
  intro other hother
  obtain ⟨hwaits, hne⟩ := hrest other hother
  exact (List.mem_erase_of_ne hne).2 (h.waited other hwaits)

/-- The answer to another request leaves the profile operations in flight. -/
theorem profiles_erase (h : Attended hold inFlight asked) {request : Request}
    (hother : request.isProfile = false) :
    (inFlight.erase request).filter Request.isProfile = hold.profileRequests := by
  rw [← List.erase_filter, h.profiles, List.erase_of_not_mem]
  intro hmem
  rw [← h.profiles] at hmem
  rw [(List.mem_filter.1 hmem).2] at hother
  exact nomatch hother

/-! ### Mutations -/

/-- A settled model has nothing pending. -/
theorem statusPending_of_settled (h : hold.Settled) :
    hold.statusPending = false ∧ hold.listPending = false ∧ hold.catalogPending = false := by
  have hnone := h.1
  simp only [Hold.reconciling, Bool.or_eq_false_iff] at hnone
  exact ⟨hnone.1.1, hnone.1.2, hnone.2⟩

/-- A mutation that is no import begins; a refresh is what the status is waited for from. -/
theorem mutate (h : Attended hold inFlight asked) {kind : MutationKind} (token : Nat)
    {statusReload : Bool} (himporting : hold.importing = false)
    (hprofile : hold.profile.isSome = true → kind = .refresh)
    (hreload : statusReload = true → hold.statusPending = true)
    (hrefresh : kind = .refresh → statusReload = false)
    (hother : kind ≠ .refresh → hold.statusPending = true → statusReload = true) :
    Attended { hold with statusReload, mutation := some ⟨token, kind, hold.epoch⟩ }
      (.mutation kind token :: inFlight) asked :=
  { h with
    waited := by
      intro request hrequest
      rcases Hold.mem_waiting.1 hrequest with hmutation | hrest
      · rw [List.mem_singleton.1 hmutation]
        exact List.mem_cons_self
      · exact List.mem_cons_of_mem _ (h.waited request (Hold.mem_waiting.2 (Or.inr hrest)))
    epoch := by
      intro active hactive
      rw [← Option.some.inj hactive]
    importing := fun himport => by
      rw [himporting] at himport
      exact nomatch himport
    profiles := h.profiles
    profile := fun hsome => by
      obtain ⟨hsettled, himport, -⟩ := h.profile hsome
      refine ⟨hsettled, himport, fun active hactive => ?_⟩
      rw [← Option.some.inj hactive]
      exact hprofile hsome
    refreshing := fun active hactive hkind => by
      rw [← Option.some.inj hactive] at hkind
      exact hrefresh hkind
    statusReload := hreload
    status := fun hpending => by
      by_cases hkind : kind = .refresh
      · exact Or.inr ⟨_, rfl, hkind⟩
      · exact Or.inl (hother hkind hpending) }

/-- An import supersedes a refresh of the status that is in flight. -/
theorem «import» (h : Attended hold inFlight asked) (token : Nat) (hsettled : hold.Settled)
    (hprofile : hold.profile = none) :
    Attended { hold with importing := true, mutation := some ⟨token, .import, hold.epoch⟩ }
      (.mutation .import token :: inFlight) asked :=
  { h with
    waited := by
      intro request hrequest
      rcases Hold.mem_waiting.1 hrequest with hmutation | hrest
      · rw [List.mem_singleton.1 hmutation]
        exact List.mem_cons_self
      · exact List.mem_cons_of_mem _ (h.waited request (Hold.mem_waiting.2 (Or.inr hrest)))
    epoch := by
      intro active hactive
      rw [← Option.some.inj hactive]
    importing := fun _ => ⟨hsettled, _, rfl, rfl⟩
    profiles := h.profiles
    profile := fun hsome => by
      rw [hprofile] at hsome
      exact nomatch hsome
    refreshing := fun active hactive hkind => by
      rw [← Option.some.inj hactive] at hkind
      exact nomatch hkind
    status := fun hpending => by
      have hnone := hsettled.1
      simp only [Hold.reconciling, Bool.or_eq_false_iff] at hnone
      have hpending : hold.statusPending = true := hpending
      rw [hnone.1.1] at hpending
      exact nomatch hpending }

/-- The answer of the current mutation is in; a status that is still to be read is asked for. -/
theorem finishMutation (h : Attended hold inFlight asked) (kind : MutationKind) (token : Nat)
    {importing statusReload : Bool} (himporting : importing = false)
    (hreload : statusReload = hold.statusPending) :
    Attended { hold with mutation := none, importing, statusReload }
      (inFlight.erase (.mutation kind token)) asked :=
  { h with
    waited := by
      refine h.waited_erase fun other hother => ?_
      rcases Hold.mem_waiting.1 hother with hnone | hrest
      · exact nomatch hnone
      · refine ⟨Hold.mem_waiting.2 (Or.inr hrest), ?_⟩
        rintro rfl
        simp [Hold.profileRequests] at hrest
    epoch := fun _ hactive => nomatch hactive
    importing := fun himport => nomatch himporting.symm.trans himport
    profiles := h.profiles_erase rfl
    profile := fun hsome => ⟨(h.profile hsome).1, himporting, fun _ hactive => nomatch hactive⟩
    refreshing := fun _ hactive => nomatch hactive
    statusReload := hreload.symm.trans
    status := fun hpending => Or.inl (hreload.trans hpending) }

/-- When the status or the list is in, a catalog that waited for them is asked for. -/
theorem readBack (h : Attended hold inFlight asked) {status list : Bool}
    (hstatus : status = true → hold.statusPending = true)
    (hlist : list = true → hold.listPending = true)
    (hreload : hold.statusReload = true → status = true) :
    Attended { hold with statusPending := status, listPending := list }.arm inFlight asked := by
  have hreconciling : hold.reconciling = false →
      Hold.reconciling { hold with statusPending := status, listPending := list }.arm = false := by
    intro hnone
    simp only [Hold.reconciling, Bool.or_eq_false_iff] at hnone
    obtain ⟨⟨hnostatus, hnolist⟩, hnocatalog⟩ := hnone
    rw [hnostatus] at hstatus
    rw [hnolist] at hlist
    simp only [Hold.reconciling, Hold.arm, hnocatalog, Bool.or_false]
    exact Bool.or_eq_false_iff.2 ⟨Bool.eq_false_iff.2 fun h => (by cases hstatus h),
      Bool.eq_false_iff.2 fun h => (by cases hlist h)⟩
  exact { h with
    waited := h.waited
    importing := fun himport =>
      ⟨⟨hreconciling (h.importing himport).1.1, (h.importing himport).1.2⟩,
        (h.importing himport).2⟩
    profiles := h.profiles
    profile := fun hsome =>
      ⟨⟨hreconciling (h.profile hsome).1.1, (h.profile hsome).1.2⟩, (h.profile hsome).2⟩
    statusReload := hreload
    status := fun hpending => h.status (hstatus hpending)
    list := fun hpending => h.list (hlist hpending)
    catalog := fun hpending => by
      have hpending : hold.catalogPending = true := hpending
      by_cases hfirst : status = true ∨ list = true
      · exact Or.inr (Or.inr hfirst)
      · rw [not_or, Bool.not_eq_true, Bool.not_eq_true] at hfirst
        left
        simp only [Hold.arm, hpending, hfirst, Bool.not_false, Bool.and_self, Bool.or_true]
    selection := fun hsome => ⟨hreconciling (h.selection hsome).1, (h.selection hsome).2⟩
    catalogRequired := fun hrequired =>
      ⟨hreconciling (h.catalogRequired hrequired).1, (h.catalogRequired hrequired).2⟩ }

end

section

variable {model : DesktopViewModel} {inFlight : List Request} {asked : Bool}

/-- A mutation is waited for from its beginning, unless it yields to a profile operation. -/
theorem hold_nextMutation (model : DesktopViewModel) (kind : MutationKind) :
    (model.nextMutation kind).2.hold =
      if kind = .refresh ∧ model.activeProfileMutation.isSome = true then model.hold
      else { model.hold with
        mutation := some ⟨(model.nextMutation kind).1, kind, model.profileEpoch⟩ } := by
  rw [DesktopViewModel.nextMutation]
  by_cases hprofile : kind = .refresh ∧ model.activeProfileMutation.isSome = true
  · rw [if_pos hprofile, if_pos]
    · rfl
    · rw [Bool.and_eq_true, decide_eq_true_eq]
      exact hprofile
  · rw [if_neg hprofile, if_neg]
    · rfl
    · rw [Bool.and_eq_true, decide_eq_true_eq]
      exact hprofile

/-- What nothing holds is idle altogether. -/
theorem not_held (h : model.primaryActionHeld = false) :
    model.hold.mutation = none ∧ model.hold.importing = false ∧ model.hold.profile = none ∧
      model.hold.Settled := by
  simp only [DesktopViewModel.primaryActionHeld, DesktopViewModel.profileMutationPending,
    DesktopViewModel.profileReconciliationRequired, Bool.or_eq_false_iff,
    Option.isSome_eq_false_iff, Option.isNone_iff_eq_none] at h
  obtain ⟨⟨⟨⟨⟨hmutation, himporting⟩, hprofile⟩, ⟨hstatus, hlist⟩, hcatalog⟩, hselection⟩,
    hrequired⟩ := h
  refine ⟨hmutation, himporting, hprofile, ?_, ?_, hrequired⟩
  · simp only [Hold.reconciling, DesktopViewModel.hold, hstatus, hlist, hcatalog, Bool.or_self]
  · simp only [DesktopViewModel.hold, hselection, Option.map_none]

/-- When nothing is waited for, any mutation may begin. -/
theorem nextMutation_idle (h : Attended model.hold inFlight asked) (kind : MutationKind)
    (himporting : model.hold.importing = false) (hprofile : model.hold.profile = none)
    (hsettled : model.hold.Settled) :
    Attended (model.nextMutation kind).2.hold
      (.mutation kind (model.nextMutation kind).1 :: inFlight) asked := by
  have hstatus := (statusPending_of_settled hsettled).1
  have hnone : ¬ (kind = .refresh ∧ model.activeProfileMutation.isSome = true) := by
    rintro ⟨-, hsome⟩
    rw [show model.activeProfileMutation = none from hprofile] at hsome
    exact nomatch hsome
  rw [hold_nextMutation, if_neg hnone]
  refine h.mutate _ himporting (fun hsome => ?_) h.statusReload (fun _ => ?_) fun _ hpending => ?_
  · rw [hprofile] at hsome
    exact nomatch hsome
  · rw [← Bool.not_eq_true]
    intro hreload
    rw [h.statusReload hreload] at hstatus
    exact nomatch hstatus
  · rw [hstatus] at hpending
    exact nomatch hpending

/-- A refresh is attended from its beginning. -/
theorem beginRefresh (h : Attended model.hold inFlight asked)
    (himporting : model.importPending = false) :
    Attended model.beginRefresh.2.hold (.mutation .refresh model.beginRefresh.1 :: inFlight)
      asked := by
  have hreload : (!model.profileStatusReconciliationPending && model.profileStatusReloadNeeded) =
      false := by
    cases hneeded : model.profileStatusReloadNeeded with
    | true =>
      have hpending : model.profileStatusReconciliationPending = true := h.statusReload hneeded
      rw [hpending]
      rfl
    | false => rw [Bool.and_false]
  rw [DesktopViewModel.beginRefresh, hreload, hold_nextMutation]
  split_ifs with hprofile
  · have hsettled := (h.profile hprofile.2).1
    have hnone : model.profileStatusReloadNeeded = false := by
      rw [← Bool.not_eq_true]
      intro hneeded
      have hpending := h.statusReload hneeded
      rw [(statusPending_of_settled hsettled).1] at hpending
      cases hpending
    have hsame : DesktopViewModel.hold { model with
        awaitingReconnectUntil := none, profileStatusReloadNeeded := false } = model.hold := by
      simp only [DesktopViewModel.hold, hnone]
    rw [hsame]
    exact h.began [_] rfl
  · refine h.mutate _ himporting (fun _ => rfl) (fun hnone => by cases hnone) (fun _ => rfl) ?_
    exact fun hkind => absurd rfl hkind

/-- So is the look at the state after a Disconnect. -/
theorem beginDisconnectReconciliation (h : Attended model.hold inFlight asked)
    (himporting : model.importPending = false) (hprofile : model.activeProfileMutation = none)
    (hstatus : model.profileStatusReconciliationPending = true →
      model.profileStatusReloadNeeded = true) :
    Attended model.beginDisconnectReconciliation.2.hold
      (.mutation .disconnectReconciliation model.beginDisconnectReconciliation.1 :: inFlight)
      asked := by
  rw [DesktopViewModel.beginDisconnectReconciliation, hold_nextMutation,
    if_neg fun h => nomatch h.1]
  refine h.mutate _ himporting (fun hsome => ?_) h.statusReload (fun hnone => nomatch hnone)
    fun _ => hstatus
  rw [show model.hold.profile = none from hprofile] at hsome
  exact nomatch hsome

/-- So is the action of the power switch. -/
theorem beginPrimaryAction (h : Attended model.hold inFlight asked) :
    Attended model.beginPrimaryAction.2.hold
      (Session.actionRequests model.beginPrimaryAction.1 ++ inFlight) asked := by
  rw [DesktopViewModel.beginPrimaryAction]
  split_ifs with hheld
  · exact h
  · obtain ⟨-, himporting, hprofile, hsettled⟩ := not_held (Bool.not_eq_true _ ▸ hheld)
    dsimp only
    split
    · exact h
    · next kind hkind =>
      have hbegun := h.nextMutation_idle kind himporting hprofile hsettled
      rw [Session.actionRequests, hkind]
      exact hbegun

/-- So is an action that was queued. -/
theorem beginQueuedPrimaryAction (h : Attended model.hold inFlight asked) (now : Nat) :
    Attended (model.beginQueuedPrimaryAction now).2.hold
      (Session.actionRequests (model.beginQueuedPrimaryAction now).1 ++ inFlight) asked := by
  rw [DesktopViewModel.beginQueuedPrimaryAction]
  split
  · exact h
  · split_ifs
    · exact h
    · exact h
    · dsimp only
      split_ifs
      · exact h
      · have hqueued : Attended (DesktopViewModel.hold { model with queuedPrimary := none })
            inFlight asked := h
        exact hqueued.beginPrimaryAction

/-- So is an import. -/
theorem beginImport (h : Attended model.hold inFlight asked) (externals : Externals)
    (url : String) :
    Attended (model.beginImport externals url).2.hold
      (((model.beginImport externals url).1.map (Request.mutation .import)).toList ++ inFlight)
      asked := by
  rw [DesktopViewModel.beginImport]
  split_ifs with hrefused
  · exact h
  · simp only [Bool.or_eq_true, not_or, Bool.not_eq_true] at hrefused
    obtain ⟨⟨⟨⟨⟨⟨-, hprofile⟩, hreconciling⟩, hselection⟩, hrequired⟩, -⟩, -⟩ := hrefused
    refine h.import _ ⟨hreconciling, ?_, hrequired⟩ ?_
    · rw [Option.isSome_eq_false_iff, Option.isNone_iff_eq_none] at hselection
      simp only [DesktopViewModel.hold, hselection, Option.map_none]
    · exact Option.isNone_iff_eq_none.1 (Option.isSome_eq_false_iff.1 hprofile)

/-- So is a refresh of the subscription. -/
theorem beginSubscriptionRefresh (h : Attended model.hold inFlight asked) :
    Attended model.beginSubscriptionRefresh.2.hold
      ((model.beginSubscriptionRefresh.1.map (Request.mutation .subscriptionRefresh)).toList ++
        inFlight) asked := by
  rw [DesktopViewModel.beginSubscriptionRefresh]
  split_ifs with hrefused
  · exact h
  · simp only [Bool.or_eq_true, not_or, Bool.not_eq_true] at hrefused
    obtain ⟨⟨⟨⟨⟨⟨⟨⟨hmutation, himporting⟩, hprofile⟩, hreconciling⟩, hselection⟩, hrequired⟩, -⟩,
      -⟩, -⟩ := hrefused
    have hheld : model.primaryActionHeld = false := by
      simp only [DesktopViewModel.primaryActionHeld, hmutation, himporting, hprofile, hreconciling,
        hselection, hrequired, Bool.or_self]
    obtain ⟨-, himporting, hprofile, hsettled⟩ := not_held hheld
    exact h.nextMutation_idle .subscriptionRefresh himporting hprofile hsettled

/-! ### Answers of mutations -/

/-- A current answer is that of the mutation waited for. -/
theorem exists_current {token : Nat} {kind : MutationKind}
    (h : model.isCurrentMutation token kind = true) :
    ∃ active, model.hold.mutation = some active ∧ active.kind = kind := by
  obtain ⟨active, hactive, hcurrent⟩ := (Option.any_eq_true _ _).1 h
  simp only [Bool.and_eq_true, decide_eq_true_eq] at hcurrent
  exact ⟨active, hactive, hcurrent.1.2⟩

/-- The answer of a mutation that is not current is waited for by nothing. -/
theorem superseded (h : Attended model.hold inFlight asked) {token : Nat} {kind : MutationKind}
    (hother : (!model.isCurrentMutation token kind) = true) :
    Attended model.hold (inFlight.erase (.mutation kind token)) asked := by
  refine h.erase fun hwaits => ?_
  have hmem : Request.mutation kind token ∈ model.hold.mutationRequests := by
    rcases Hold.mem_waiting.1 hwaits with hmutation | hrest
    · exact hmutation
    · simp [Hold.profileRequests] at hrest
  obtain ⟨active, hactive, hrequest⟩ := Option.map_eq_some_iff.1 (Option.mem_toList.1 hmem)
  injection hrequest with hkind htoken
  have hcurrent : model.isCurrentMutation token kind = true := by
    refine (Option.any_eq_true _ _).2 ⟨active, hactive, ?_⟩
    simp only [Bool.and_eq_true, decide_eq_true_eq]
    exact ⟨⟨htoken, hkind⟩, h.epoch active hactive⟩
  rw [hcurrent] at hother
  exact nomatch hother

/-- While another mutation is waited for no import is. -/
theorem not_importing (h : Attended model.hold inFlight asked) {active : ActiveMutation}
    (hactive : model.hold.mutation = some active) (hkind : active.kind ≠ .import) :
    model.hold.importing = false := by
  rw [← Bool.not_eq_true]
  intro himporting
  obtain ⟨-, other, hother, himport⟩ := h.importing himporting
  rw [hactive] at hother
  rw [Option.some.inj hother] at hkind
  exact hkind himport

/-- While a mutation is waited for that is no refresh, no profile operation is. -/
theorem no_profile (h : Attended model.hold inFlight asked) {active : ActiveMutation}
    (hactive : model.hold.mutation = some active) (hkind : active.kind ≠ .refresh) :
    model.hold.profile = none := by
  rw [← Option.isNone_iff_eq_none, ← Option.isSome_eq_false_iff, ← Bool.not_eq_true]
  intro hsome
  exact hkind ((h.profile hsome).2.2 active hactive)

/-- Unless a refresh is current, a status that is still to be read is asked for. -/
theorem reload_eq_pending (h : Attended model.hold inFlight asked) {active : ActiveMutation}
    (hactive : model.hold.mutation = some active) (hkind : active.kind ≠ .refresh) :
    model.hold.statusReload = model.hold.statusPending := by
  refine Bool.eq_iff_iff.2 ⟨h.statusReload, fun hpending => (h.status hpending).resolve_right ?_⟩
  rintro ⟨other, hother, hrefresh⟩
  rw [hactive] at hother
  rw [Option.some.inj hother] at hkind
  exact hkind hrefresh

/-- The answer of a connect, of a disconnect or of a refresh of the subscription is in. -/
theorem finishCurrent (h : Attended model.hold inFlight asked) {token : Nat} {kind : MutationKind}
    (hcurrent : model.isCurrentMutation token kind = true) (himport : kind ≠ .import)
    (hrefresh : kind ≠ .refresh) :
    Attended { model.hold with mutation := none } (inFlight.erase (.mutation kind token))
      asked := by
  obtain ⟨active, hactive, rfl⟩ := exists_current hcurrent
  exact h.finishMutation active.kind token (h.not_importing hactive himport)
    (h.reload_eq_pending hactive hrefresh)

/-- The answer to a refresh leaves the rest attended. -/
theorem finishRefresh (h : Attended model.hold inFlight asked) (token : Nat)
    (result : Except DaemonError DaemonStatus) :
    Attended (model.finishRefresh token result).hold (inFlight.erase (.mutation .refresh token))
      asked := by
  unfold DesktopViewModel.finishRefresh
  split_ifs with hother hprofile
  · exact h.superseded hother
  · obtain ⟨active, hactive, hkind⟩ := exists_current (by simpa using hother)
    have himporting : model.hold.importing = false :=
      h.not_importing hactive (by rw [hkind]; exact fun h => nomatch h)
    have hpending := (statusPending_of_settled (h.profile hprofile).1).1
    exact h.finishMutation .refresh token himporting
      ((h.refreshing active hactive hkind).trans hpending.symm)
  · obtain ⟨active, hactive, hkind⟩ := exists_current (by simpa using hother)
    have himporting : model.hold.importing = false :=
      h.not_importing hactive (by rw [hkind]; exact fun h => nomatch h)
    have hnone := h.refreshing active hactive hkind
    cases result with
    | ok status =>
      let read := { model with profileStatusReconciliationPending := false }
      have hread : Attended read.hold.arm inFlight asked :=
        h.readBack (fun h => nomatch h) id fun hneeded => nomatch hnone.symm.trans hneeded
      have happlied : (read.applyDaemonStatus status).armProfileCatalogReconciliation.hold =
          read.hold.arm ∨ (read.applyDaemonStatus status).armProfileCatalogReconciliation.hold =
            read.hold.arm.invalidate.arm := by
        rw [DesktopViewModel.hold_armProfileCatalogReconciliation]
        rcases read.hold_applyDaemonStatus status with hsame | hnew
        · exact Or.inl (congrArg Hold.arm hsame)
        · exact Or.inr (congrArg Hold.arm hnew)
      have hafter := hread.applied happlied
      refine hafter.finishMutation .refresh token ?_ ?_
      · rcases happlied with hhold | hhold
        · exact (congrArg Hold.importing hhold).trans himporting
        · exact (congrArg Hold.importing hhold).trans himporting
      · rcases happlied with hhold | hhold
        · exact (congrArg Hold.statusReload hhold).trans
            (hnone.trans (congrArg Hold.statusPending hhold).symm)
        · exact (congrArg Hold.statusReload hhold).trans
            (hnone.trans (congrArg Hold.statusPending hhold).symm)
    | error error =>
      refine h.finishMutation .refresh token himporting ?_
      simp only [show model.profileStatusReloadNeeded = false from hnone, Bool.or_false]
      rfl

/-- The same, when the answer is a status. -/
theorem finishApplied (h : Attended model.hold inFlight asked) {token : Nat} {kind : MutationKind}
    (hcurrent : model.isCurrentMutation token kind = true) (himport : kind ≠ .import)
    (hrefresh : kind ≠ .refresh) (status : DaemonStatus) :
    Attended { (model.applyDaemonStatus status).hold with mutation := none }
      (inFlight.erase (.mutation kind token)) asked := by
  refine (h.finishCurrent hcurrent himport hrefresh).applied ?_
  rcases model.hold_applyDaemonStatus status with hhold | hhold
  · exact Or.inl (by rw [hhold])
  · exact Or.inr (by rw [hhold]; rfl)

/-- So does the answer to a Connect. -/
theorem finishConnect (h : Attended model.hold inFlight asked) (token : Nat)
    (result : Except DaemonError DaemonStatus) :
    Attended (model.finishConnect token result).hold (inFlight.erase (.mutation .connect token))
      asked := by
  unfold DesktopViewModel.finishConnect
  split_ifs with hother
  · exact h.superseded hother
  · have hcurrent : model.isCurrentMutation token .connect = true := by simpa using hother
    cases result with
    | ok status =>
      exact h.finishApplied hcurrent (fun h => nomatch h) (fun h => nomatch h) status
    | error error => exact h.finishCurrent hcurrent (fun h => nomatch h) fun h => nomatch h

/-- So does the answer to a Disconnect. -/
theorem finishDisconnect (h : Attended model.hold inFlight asked) (token : Nat)
    (result : Except DaemonError DaemonStatus) :
    Attended (model.finishDisconnect token result).2.hold
      (inFlight.erase (.mutation .disconnect token)) asked := by
  unfold DesktopViewModel.finishDisconnect
  split_ifs with hother
  · exact h.superseded hother
  · have hcurrent : model.isCurrentMutation token .disconnect = true := by simpa using hother
    cases result with
    | ok status =>
      exact h.finishApplied hcurrent (fun h => nomatch h) (fun h => nomatch h) status
    | error error =>
      dsimp only
      split_ifs
      · exact h.finishCurrent hcurrent (fun h => nomatch h) fun h => nomatch h
      · exact h.finishCurrent hcurrent (fun h => nomatch h) fun h => nomatch h

/-- So does the look at the state after a Disconnect. -/
theorem finishDisconnectReconciliation (h : Attended model.hold inFlight asked) (token : Nat)
    (result : Except DaemonError DaemonStatus) :
    Attended (model.finishDisconnectReconciliation token result).2.hold
      (inFlight.erase (.mutation .disconnectReconciliation token)) asked := by
  unfold DesktopViewModel.finishDisconnectReconciliation
  split_ifs with hother
  · exact h.superseded hother
  · have hcurrent : model.isCurrentMutation token .disconnectReconciliation = true := by
      simpa using hother
    cases result with
    | ok status =>
      exact h.finishApplied hcurrent (fun h => nomatch h) (fun h => nomatch h) status
    | error error => exact h.finishCurrent hcurrent (fun h => nomatch h) fun h => nomatch h

/-- The same, when it is open what the daemon did: everything is read again. -/
theorem finishReconciled (h : Attended model.hold inFlight asked) {token : Nat}
    {kind : MutationKind} (hcurrent : model.isCurrentMutation token kind = true)
    (hrefresh : kind ≠ .refresh) {importing : Bool} (himporting : importing = false) :
    Attended { { model.hold with profile := none }.advance.reconcile with
      importing, mutation := none } (inFlight.erase (.mutation kind token)) asked := by
  obtain ⟨active, hactive, rfl⟩ := exists_current hcurrent
  refine idle (fun request hwaits => nomatch hwaits) ?_ rfl himporting rfl rfl rfl rfl
    (fun _ => rfl) fun _ => rfl
  rw [h.profiles_erase rfl, Hold.profileRequests, h.no_profile hactive hrefresh]
  rfl

/-- So does the answer to a refresh of the subscription. -/
theorem finishSubscriptionRefresh (h : Attended model.hold inFlight asked) (token : Nat)
    (result : Except DaemonError DaemonStatus) :
    Attended (model.finishSubscriptionRefresh token result).2.hold
      (inFlight.erase (.mutation .subscriptionRefresh token)) asked := by
  unfold DesktopViewModel.finishSubscriptionRefresh
  split_ifs with hother
  · exact h.superseded hother
  · have hcurrent : model.isCurrentMutation token .subscriptionRefresh = true := by
      simpa using hother
    cases result with
    | ok status =>
      exact h.finishApplied hcurrent (fun h => nomatch h) (fun h => nomatch h) status
    | error error =>
      have hended := h.finishCurrent hcurrent (fun h => nomatch h) fun h => nomatch h
      dsimp only
      split_ifs
      · obtain ⟨active, hactive, hkind⟩ := exists_current hcurrent
        have himporting := h.not_importing hactive (by rw [hkind]; exact fun h => nomatch h)
        have hfull : Attended { model.requireFullProfileReconciliation.hold with mutation := none }
            (inFlight.erase (.mutation .subscriptionRefresh token)) asked := by
          rw [model.hold_requireFullProfileReconciliation]
          exact h.finishReconciled hcurrent (fun h => nomatch h) himporting
        exact hfull
      · exact hended

/-- So does the answer to an import. -/
theorem finishImport (h : Attended model.hold inFlight asked) (token : Nat)
    (result : Except DaemonError DaemonStatus) :
    Attended (model.finishImport token result).hold (inFlight.erase (.mutation .import token))
      asked := by
  unfold DesktopViewModel.finishImport
  split_ifs with hother
  · exact h.superseded hother
  · have hcurrent : model.isCurrentMutation token .import = true := by simpa using hother
    obtain ⟨active, hactive, hkind⟩ := exists_current hcurrent
    have hrefresh : active.kind ≠ .refresh := by
      rw [hkind]
      exact fun h => nomatch h
    have hended : Attended { model.hold with mutation := none, importing := false }
        (inFlight.erase (.mutation .import token)) asked :=
      h.finishMutation .import token rfl (h.reload_eq_pending hactive hrefresh)
    cases result with
    | ok status =>
      have hadvanced := hended.advanced rfl
      let ended := { model with
        importPreviousState := none }.invalidateProfileListRequest.advanceProfileEpoch
      let close (hold : Hold) : Hold :=
        { hold with listReload := true, importing := false, mutation := none }
      dsimp only
      split_ifs
      · refine hadvanced.applied ?_
        rcases ended.hold_applyDaemonStatus status with hhold | hhold
        · exact Or.inl (congrArg close hhold)
        · exact Or.inr (congrArg close hhold)
      · have hswitched := congrArg close (DesktopViewModel.hold_applyProfileChangingStatus
          { ended with
            subscriptionProfiles := [], profileReloadNeeded := true
            profileCatalogReloadNeeded := true } status)
        exact hadvanced.reloadCatalog.applied (Or.inr hswitched)
    | error error =>
      dsimp only
      split_ifs
      · have hfull : Attended { (DesktopViewModel.requireFullProfileReconciliation { model with
              importPreviousState := none
              state := model.importPreviousState.getD model.state }).hold with
            importing := false, mutation := none }
            (inFlight.erase (.mutation .import token)) asked := by
          rw [DesktopViewModel.hold_requireFullProfileReconciliation]
          exact h.finishReconciled hcurrent (fun h => nomatch h) rfl
        exact hfull
      · exact hended

/-! ### Profiles -/

/-- The list of the profiles is attended from its request. -/
theorem beginProfileList (h : Attended model.hold inFlight asked) :
    Attended model.beginProfileList.2.hold (.profileList model.beginProfileList.1 :: inFlight)
      asked :=
  { h with
    waited := by
      intro request hrequest
      rcases Hold.mem_waiting.1 hrequest with hmutation | hprofile | hlist | hrest
      · exact List.mem_cons_of_mem _ (h.waited _ (Hold.mem_waiting.2 (Or.inl hmutation)))
      · exact List.mem_cons_of_mem _ (h.waited _ (Hold.mem_waiting.2 (Or.inr (Or.inl hprofile))))
      · rw [← Option.some.inj hlist]
        exact List.mem_cons_self
      · exact List.mem_cons_of_mem _
          (h.waited _ (Hold.mem_waiting.2 (Or.inr (Or.inr (Or.inr hrest)))))
    profiles := h.profiles
    list := fun _ => Or.inr rfl }

/-- The answer for the list is in. -/
theorem listRead {hold : Hold} (h : Attended hold inFlight asked) (token : Nat) {listReload : Bool}
    (hreload : hold.listPending = true → listReload = true) :
    Attended { hold with listRequest := none, listReload }
      (inFlight.erase (.profileList token)) asked :=
  { h with
    waited := by
      refine h.waited_erase fun other hother => ?_
      rcases Hold.mem_waiting.1 hother with hmutation | hprofile | hlist | hrest
      · refine ⟨Hold.mem_waiting.2 (Or.inl hmutation), ?_⟩
        rintro rfl
        simp [Hold.mutationRequests] at hmutation
      · refine ⟨Hold.mem_waiting.2 (Or.inr (Or.inl hprofile)), ?_⟩
        rintro rfl
        simp [Hold.profileRequests] at hprofile
      · exact nomatch hlist
      · refine ⟨Hold.mem_waiting.2 (Or.inr (Or.inr (Or.inr hrest))), ?_⟩
        rintro rfl
        simp at hrest
    profiles := h.profiles_erase rfl
    list := fun hpending => Or.inl (hreload hpending) }

/-- Its answer leaves the rest attended. -/
theorem finishProfileList (h : Attended model.hold inFlight asked) (token : Nat)
    (result : Except DaemonError DaemonSubscriptionList) :
    Attended (model.finishProfileList token result).hold (inFlight.erase (.profileList token))
      asked := by
  unfold DesktopViewModel.finishProfileList
  split_ifs with hother
  · refine h.erase fun hwaits => hother ?_
    rcases Hold.mem_waiting.1 hwaits with hmutation | hprofile | hlist | hrest
    · simp [Hold.mutationRequests] at hmutation
    · simp [Hold.profileRequests] at hprofile
    · obtain ⟨other, hsome, hrequest⟩ := Option.map_eq_some_iff.1 hlist
      rw [← Request.profileList.inj hrequest]
      exact hsome
    · simp at hrest
  · cases result with
    | ok list =>
      have hread : Attended { model.hold with listPending := false }.arm inFlight asked :=
        h.readBack id (fun h => nomatch h) h.statusReload
      have hlist : Attended { { model.hold with listPending := false }.arm with
          listRequest := none } (inFlight.erase (.profileList token)) asked :=
        hread.listRead token fun h => nomatch h
      let close (hold : Hold) : Hold := { hold with listPending := false }.arm
      have hclose := DesktopViewModel.hold_armProfileCatalogReconciliation
        { ({ model with profileListRequestPending := none }).replaceProfileList list with
          profileListReconciliationPending := false }
      refine hlist.applied ?_
      rcases DesktopViewModel.hold_replaceProfileList
        { model with profileListRequestPending := none } list with hhold | hhold
      · exact Or.inl (hclose.trans (congrArg close hhold))
      · exact Or.inr (hclose.trans ((congrArg close hhold).trans (Hold.arm_listRead _)))
    | error error =>
      refine h.listRead token fun hpending => ?_
      rw [show model.profileListReconciliationPending = true from hpending]
      rfl

/-- A change of a profile begins only when nothing but a refresh of the status runs. -/
theorem preflight_idle {profileId : String} {requiresAvailable allowConnected : Bool}
    (h : model.profileMutationPreflight profileId requiresAvailable allowConnected = true) :
    model.hold.profile = none ∧ model.hold.importing = false ∧ model.hold.Settled ∧
      ∀ active, model.hold.mutation = some active → active.kind = .refresh := by
  simp only [DesktopViewModel.profileMutationPreflight, Bool.and_eq_true, Bool.not_eq_true',
    Bool.or_eq_false_iff, Option.isSome_eq_false_iff, Option.isNone_iff_eq_none] at h
  obtain ⟨⟨-, ⟨⟨⟨⟨⟨hprofile, hmutation⟩, himporting⟩, hselection⟩, hrequired⟩, hreconciling⟩, -⟩,
    -⟩ := h
  refine ⟨hprofile, himporting, ⟨hreconciling, ?_, hrequired⟩, fun active hactive => ?_⟩
  · simp only [DesktopViewModel.hold, hselection, Option.map_none]
  · have hkind := (Option.any_eq_false _ _).1 hmutation active hactive
    simpa using hkind

/-- A profile operation is attended from its beginning. -/
theorem beginProfileMutation (h : Attended model.hold inFlight asked)
    (operation : SubscriptionProfileOperation) (requiresAvailable allowConnected : Bool)
    (profileId : String) :
    Attended
      (model.beginProfileMutation operation requiresAvailable allowConnected profileId).2.hold
      (((model.beginProfileMutation operation requiresAvailable allowConnected profileId).1.map
        (Request.profile operation)).toList ++ inFlight) asked := by
  rw [DesktopViewModel.beginProfileMutation]
  split_ifs with hrefused
  · exact h
  · have hpreflight : model.profileMutationPreflight profileId requiresAvailable allowConnected =
        true := by simpa using hrefused
    obtain ⟨hprofile, himporting, hsettled, hmutation⟩ := preflight_idle hpreflight
    exact { h with
      waited := by
        intro request hrequest
        rcases Hold.mem_waiting.1 hrequest with hother | hnew | hlist | hrest
        · exact List.mem_cons_of_mem _ (h.waited _ (Hold.mem_waiting.2 (Or.inl hother)))
        · rw [List.mem_singleton.1 hnew]
          exact List.mem_cons_self
        · exact nomatch hlist
        · exact List.mem_cons_of_mem _
            (h.waited _ (Hold.mem_waiting.2 (Or.inr (Or.inr (Or.inr hrest)))))
      profiles := by
        have hnone := h.profiles
        rw [Hold.profileRequests, hprofile] at hnone
        exact (List.filter_cons_of_pos rfl).trans (congrArg _ hnone)
      profile := fun _ => ⟨hsettled, himporting, hmutation⟩
      list := fun hpending =>
        nomatch (statusPending_of_settled hsettled).2.1.symm.trans hpending }

/-- So is an activation. -/
theorem beginProfileActivation (h : Attended model.hold inFlight asked) (profileId : String) :
    Attended (model.beginProfileActivation profileId).2.hold
      (((model.beginProfileActivation profileId).1.map (Request.profile .activate)).toList ++
        inFlight) asked := by
  rw [DesktopViewModel.beginProfileActivation]
  split_ifs
  · exact h
  · exact h.beginProfileMutation .activate false model.serviceMode profileId

/-- So is the edit of a link. -/
theorem beginProfileSourceEdit (h : Attended model.hold inFlight asked) (externals : Externals)
    (profileId url : String) :
    Attended (model.beginProfileSourceEdit externals profileId url).2.hold
      (((model.beginProfileSourceEdit externals profileId url).1.map
        (Request.profile .edit)).toList ++ inFlight) asked := by
  rw [DesktopViewModel.beginProfileSourceEdit]
  split_ifs
  · exact h
  · exact h.beginProfileMutation .edit false false profileId

/-- The one change of a profile that is in flight is the current one. -/
theorem current_profile (h : Attended model.hold inFlight asked)
    {operation : SubscriptionProfileOperation} {token : Nat}
    (hmem : .profile operation token ∈ inFlight) :
    model.isCurrentProfileMutation token operation = true ∧ model.hold.profile.isSome = true := by
  have hrequest := h.mem_profileRequests hmem rfl
  obtain ⟨active, hactive, heq⟩ := Option.map_eq_some_iff.1 (Option.mem_toList.1 hrequest)
  injection heq with hoperation htoken
  refine ⟨(Option.any_eq_true _ _).2 ⟨active, hactive, ?_⟩, by rw [hactive]; rfl⟩
  rw [Bool.and_eq_true, decide_eq_true_eq, decide_eq_true_eq]
  exact ⟨htoken, hoperation⟩

section Profile

variable {hold : Hold} {operation : SubscriptionProfileOperation} {token : Nat}

/-- The answer of the change of a profile is in. -/
theorem endProfile (h : Attended hold inFlight asked) (hmem : .profile operation token ∈ inFlight) :
    Attended { hold with profile := none } (inFlight.erase (.profile operation token)) asked :=
  { h with
    waited := by
      refine h.waited_erase fun other hother => ?_
      rcases Hold.mem_waiting.1 hother with hmutation | hnone | hrest
      · refine ⟨Hold.mem_waiting.2 (Or.inl hmutation), ?_⟩
        rintro rfl
        simp [Hold.mutationRequests] at hmutation
      · exact nomatch hnone
      · refine ⟨Hold.mem_waiting.2 (Or.inr (Or.inr hrest)), ?_⟩
        rintro rfl
        simp at hrest
    profiles := by
      have hrequest := h.mem_profileRequests hmem rfl
      obtain ⟨active, hactive, heq⟩ := Option.map_eq_some_iff.1 (Option.mem_toList.1 hrequest)
      rw [← List.erase_filter, h.profiles, Hold.profileRequests, hactive, Option.map_some, heq,
        Option.toList_some, List.erase_cons_head]
      rfl
    profile := fun hnone => nomatch hnone }

/-- After it the profiles have changed: nothing that was read of them before is waited for. -/
theorem changed (h : Attended hold inFlight asked) (hmem : .profile operation token ∈ inFlight)
    {after : Hold} (hmutation : after.mutation = none) (himporting : after.importing = false)
    (hprofile : after.profile = none) (hselection : after.selection = none)
    (hrequired : after.catalogRequired = false) (hlistRequest : after.listRequest = none)
    (hcatalogRequest : after.catalogRequest = none ∨ after.catalogRequest = hold.catalogRequest)
    (hstatus : after.statusReload = after.statusPending)
    (hlist : after.listPending = true → after.listReload = true)
    (hcatalog : after.catalogPending = true → after.catalogReload = true) :
    Attended after (inFlight.erase (.profile operation token)) asked := by
  refine idle (fun request hrequest => ?_) (h.endProfile hmem).profiles hmutation himporting
    hprofile hselection hrequired hstatus hlist hcatalog
  rcases Hold.mem_waiting.1 hrequest with hother | hother | hother | hother | hother
  · simp [Hold.mutationRequests, hmutation] at hother
  · simp [Hold.profileRequests, hprofile] at hother
  · simp [hlistRequest] at hother
  · rcases hcatalogRequest with hnone | hsame
    · simp [hnone] at hother
    · rw [hsame] at hother
      exact (h.endProfile hmem).waited request
        (Hold.mem_waiting.2 (Or.inr (Or.inr (Or.inr (Or.inl hother)))))
  · simp [hselection] at hother

/-- What runs beside a change of a profile, as its answer is in. -/
theorem beside_profile (h : Attended hold inFlight asked) (hprofile : hold.profile.isSome = true) :
    hold.advance.mutation = none ∧ hold.importing = false ∧ hold.selection = none ∧
      hold.catalogRequired = false ∧ hold.statusPending = false ∧ hold.statusReload = false ∧
      hold.listPending = false ∧ hold.catalogPending = false := by
  obtain ⟨hsettled, himporting, hrefresh⟩ := h.profile hprofile
  obtain ⟨hstatus, hlist, hcatalog⟩ := statusPending_of_settled hsettled
  refine ⟨?_, himporting, hsettled.2.1, hsettled.2.2, hstatus, ?_, hlist, hcatalog⟩
  · rw [Hold.advance]
    cases hmutation : hold.mutation with
    | none => rfl
    | some active => simp [hrefresh active hmutation]
  · rw [← Bool.not_eq_true]
    intro hreload
    exact nomatch hstatus.symm.trans (h.statusReload hreload)

end Profile

/-- A profile operation that failed leaves the rest attended. -/
theorem failProfileMutation (h : Attended model.hold inFlight asked)
    {operation : SubscriptionProfileOperation} {token : Nat}
    (hmem : .profile operation token ∈ inFlight) (error : DaemonError) :
    Attended (DesktopViewModel.failProfileMutation { model with activeProfileMutation := none }
      error).hold (inFlight.erase (.profile operation token)) asked := by
  obtain ⟨hmutation, himporting, -⟩ := h.beside_profile (h.current_profile hmem).2
  rw [DesktopViewModel.failProfileMutation]
  split_ifs
  · rw [DesktopViewModel.hold_requireFullProfileReconciliation]
    exact h.changed hmem hmutation himporting rfl rfl rfl rfl (Or.inl rfl) rfl (fun _ => rfl)
      fun _ => rfl
  · exact h.endProfile hmem

/-- The answer to an activation leaves the rest attended. -/
theorem finishProfileActivation (h : Attended model.hold inFlight asked) {token : Nat}
    (hmem : .profile .activate token ∈ inFlight) (result : Except DaemonError DaemonStatus) :
    Attended (model.finishProfileActivation token result).hold
      (inFlight.erase (.profile .activate token)) asked := by
  obtain ⟨hcurrent, hprofile⟩ := h.current_profile hmem
  obtain ⟨hmutation, himporting, -, -, hstatus, hreload, -⟩ := h.beside_profile hprofile
  unfold DesktopViewModel.finishProfileActivation
  rw [if_neg (by rw [hcurrent]; exact Bool.false_ne_true)]
  cases result with
  | ok status =>
    let flag (hold : Hold) : Hold :=
      { hold with
        listReload := true
        catalogReload := true
        listPending := true
        catalogPending := true }
    have hhold := congrArg flag (DesktopViewModel.hold_applyProfileChangingStatus
      { model with
        activeProfileMutation := none }.invalidateProfileListRequest.advanceProfileEpoch status)
    have hafter : Attended (flag { model.hold with profile := none }.advance.invalidate)
        (inFlight.erase (.profile .activate token)) asked :=
      h.changed hmem hmutation himporting rfl rfl rfl rfl (Or.inl rfl) (hreload.trans hstatus.symm)
        (fun _ => rfl) fun _ => rfl
    exact hafter.applied (Or.inl hhold)
  | error error => exact h.failProfileMutation hmem error

/-- The end of a refresh or of an edit of one profile. -/
theorem finishProfileChange (h : Attended model.hold inFlight asked)
    {operation : SubscriptionProfileOperation} {token : Nat}
    (hmem : .profile operation token ∈ inFlight)
    (result : Except DaemonError DaemonSubscriptionList) :
    Attended (model.finishProfileChange operation token result).hold
      (inFlight.erase (.profile operation token)) asked := by
  obtain ⟨hcurrent, hprofile⟩ := h.current_profile hmem
  obtain ⟨hmutation, himporting, hselection, hrequired, hstatus, hreload, hlist, hcatalog⟩ :=
    h.beside_profile hprofile
  unfold DesktopViewModel.finishProfileChange
  rw [if_neg (by rw [hcurrent]; exact Bool.false_ne_true)]
  split
  · exact h.endProfile hmem
  · next profileId _ =>
    cases result with
    | ok list =>
      let changed := { model with
        activeProfileMutation := none }.invalidateProfileListRequest.advanceProfileEpoch
      have hupdated : (changed.updateProfile profileId list).hold = changed.hold := by
        rw [DesktopViewModel.updateProfile]
        split <;> rfl
      dsimp only
      split_ifs
      · have hhold := (DesktopViewModel.hold_requireProfileReconciliation
          (changed.updateProfile profileId list).invalidateProfileRuntime).trans
            (congrArg Hold.reconcile hupdated)
        have hafter : Attended { model.hold with profile := none }.advance.reconcile
            (inFlight.erase (.profile operation token)) asked :=
          h.changed hmem hmutation himporting rfl rfl rfl rfl (Or.inl rfl) rfl (fun _ => rfl)
            fun _ => rfl
        exact hafter.applied (Or.inl hhold)
      · let flag (hold : Hold) : Hold := { hold with listReload := true, listPending := true }
        have hafter : Attended (flag { model.hold with profile := none }.advance)
            (inFlight.erase (.profile operation token)) asked :=
          h.changed hmem hmutation himporting rfl hselection hrequired rfl (Or.inr rfl)
            (hreload.trans hstatus.symm) (fun _ => rfl)
            fun hpending => nomatch hcatalog.symm.trans hpending
        exact hafter.applied (Or.inl (congrArg flag hupdated))
    | error error => exact h.failProfileMutation hmem error

/-- The answer to a deletion leaves the rest attended. -/
theorem finishProfileDelete (h : Attended model.hold inFlight asked) {token : Nat}
    (hmem : .profile .delete token ∈ inFlight) (result : Except DaemonError DaemonStatus) :
    Attended (model.finishProfileDelete token result).hold
      (inFlight.erase (.profile .delete token)) asked := by
  obtain ⟨hcurrent, hprofile⟩ := h.current_profile hmem
  obtain ⟨hmutation, himporting, hselection, hrequired, hstatus, hreload, hlist, hcatalog⟩ :=
    h.beside_profile hprofile
  unfold DesktopViewModel.finishProfileDelete
  rw [if_neg (by rw [hcurrent]; exact Bool.false_ne_true)]
  split
  · exact h.endProfile hmem
  · next profileId _ =>
    cases result with
    | ok status =>
      let changed := { model with
        activeProfileMutation := none }.invalidateProfileListRequest.advanceProfileEpoch
      let deleted : DesktopViewModel := { changed with
        subscriptionProfiles :=
          model.subscriptionProfiles.filter fun profile => profile.id ≠ profileId }
      let other : Bool := (deleted.applyDaemonStatus status).activeProfileId ≠ model.activeProfileId
      let flag (hold : Hold) : Hold :=
        { hold with
          catalogReload := hold.catalogReload || other
          catalogPending := hold.catalogPending || other
          listReload := true
          listPending := true }
      have hflag : ∀ reload : Bool, (model.hold.catalogPending || other) = true →
          (reload || other) = true := by
        intro reload hpending
        rw [hcatalog, Bool.false_or] at hpending
        rw [hpending, Bool.or_true]
      have hsame : Attended (flag { model.hold with profile := none }.advance)
          (inFlight.erase (.profile .delete token)) asked :=
        h.changed hmem hmutation himporting rfl hselection hrequired rfl (Or.inr rfl)
          (hreload.trans hstatus.symm) (fun _ => rfl) (hflag _)
      have hnew : Attended (flag { model.hold with profile := none }.advance.invalidate.arm)
          (inFlight.erase (.profile .delete token)) asked :=
        h.changed hmem hmutation himporting rfl rfl rfl rfl (Or.inl rfl)
          (hreload.trans hstatus.symm) (fun _ => rfl) (hflag _)
      rcases deleted.hold_applyDaemonStatus status with hhold | hhold
      · exact hsame.applied (Or.inl (congrArg flag hhold))
      · exact hnew.applied (Or.inl (congrArg flag hhold))
    | error error => exact h.failProfileMutation hmem error

/-! ### Catalogs and choices of routes -/

section Catalog

variable {hold : Hold}

/-- The answer for a catalog is in. -/
theorem catalogRead (h : Attended hold inFlight asked) (token : Nat)
    {catalogPending catalogReload : Bool} (hpending : catalogPending = true →
      hold.catalogPending = true ∧ catalogReload = true) :
    Attended { hold with
      catalogRequest := none, catalogRequired := false, catalogPending, catalogReload }
      (inFlight.erase (.catalog token)) asked := by
  have hreconciling : hold.reconciling = false →
      Hold.reconciling { hold with
        catalogRequest := none, catalogRequired := false, catalogPending, catalogReload } =
        false := by
    intro hnone
    simp only [Hold.reconciling, Bool.or_eq_false_iff] at hnone ⊢
    refine ⟨hnone.1, Bool.eq_false_iff.2 fun h => ?_⟩
    exact nomatch hnone.2.symm.trans (hpending h).1
  exact { h with
    waited := by
      refine h.waited_erase fun other hother => ?_
      rcases Hold.mem_waiting.1 hother with hmutation | hprofile | hlist | hcatalog | hselection
      · refine ⟨Hold.mem_waiting.2 (Or.inl hmutation), ?_⟩
        rintro rfl
        simp [Hold.mutationRequests] at hmutation
      · refine ⟨Hold.mem_waiting.2 (Or.inr (Or.inl hprofile)), ?_⟩
        rintro rfl
        simp [Hold.profileRequests] at hprofile
      · refine ⟨Hold.mem_waiting.2 (Or.inr (Or.inr (Or.inl hlist))), ?_⟩
        rintro rfl
        simp at hlist
      · exact nomatch hcatalog
      · refine ⟨Hold.mem_waiting.2 (Or.inr (Or.inr (Or.inr (Or.inr hselection)))), ?_⟩
        rintro rfl
        simp at hselection
    importing := fun himport =>
      ⟨⟨hreconciling (h.importing himport).1.1, (h.importing himport).1.2.1, rfl⟩,
        (h.importing himport).2⟩
    profiles := h.profiles_erase rfl
    profile := fun hsome =>
      ⟨⟨hreconciling (h.profile hsome).1.1, (h.profile hsome).1.2.1, rfl⟩, (h.profile hsome).2⟩
    catalog := fun hneeded => Or.inl (hpending hneeded).2
    selection := fun hsome => ⟨hreconciling (h.selection hsome).1, rfl⟩
    catalogRequired := fun hnone => nomatch hnone }

end Catalog

/-- The catalog that arrives leaves the rest attended. -/
theorem finishCatalog (h : Attended model.hold inFlight asked) (externals : Externals) (token : Nat)
    (result : Except DaemonError DaemonCatalog) :
    Attended (model.finishCatalog externals token result).hold (inFlight.erase (.catalog token))
      asked := by
  unfold DesktopViewModel.finishCatalog
  split_ifs with hother
  · refine h.erase fun hwaits => hother ?_
    rcases Hold.mem_waiting.1 hwaits with hmutation | hprofile | hlist | hcatalog | hselection
    · simp [Hold.mutationRequests] at hmutation
    · simp [Hold.profileRequests] at hprofile
    · simp at hlist
    · obtain ⟨other, hsome, hrequest⟩ := Option.map_eq_some_iff.1 hcatalog
      rw [← Request.catalog.inj hrequest]
      exact hsome
    · simp at hselection
  · cases result with
    | ok catalog =>
      let read (hold : Hold) : Hold :=
        { hold with catalogRequired := false, catalogPending := false }
      have hread : Attended (read { model.hold with catalogRequest := none })
          (inFlight.erase (.catalog token)) asked := h.catalogRead token fun h => nomatch h
      have hhold := congrArg read
        (DesktopViewModel.hold_replaceCatalog externals { model with catalogRequestPending := none }
          catalog)
      dsimp only
      split_ifs
      · exact hread.applied (Or.inl ((congrArg read
          (DesktopViewModel.hold_syncConnectedRouteFromCatalog _)).trans hhold))
      · exact hread.applied (Or.inl hhold)
    | error error =>
      refine h.catalogRead token fun hpending => ⟨hpending, ?_⟩
      rw [show model.profileCatalogReconciliationPending = true from hpending]
      rfl

/-- A request for the catalog is begun, or refused for work that asks for it again: whether or not a
reload was asked for before. -/
theorem beginCatalogRequest (h : Attended model.hold inFlight asked) (reload again : Bool) :
    Attended ({ model with
        profileCatalogReloadNeeded := reload } : DesktopViewModel).beginCatalogRequest.2.hold
      ((({ model with
        profileCatalogReloadNeeded := reload } : DesktopViewModel).beginCatalogRequest.1.map
          Request.catalog).toList ++ inFlight) again := by
  have hrefused : ∀ hold : Hold, hold = { model.hold with catalogReload := reload } →
      (model.hold.catalogRequest.isSome = true ∨ model.hold.profile.isSome = true ∨
        (model.hold.catalogPending = true ∧
          (model.hold.statusPending = true ∨ model.hold.listPending = true)) ∨
        model.hold.selection.isSome = true) → Attended hold inFlight again := by
    rintro hold rfl hwork
    have hcatalog : model.hold.catalogPending = true → model.hold.catalogRequest.isSome = true ∨
        model.hold.statusPending = true ∨ model.hold.listPending = true := by
      intro hpending
      rcases hwork with hrequest | hprofile | ⟨-, hother⟩ | hselection
      · exact Or.inl hrequest
      · have hnone := statusPending_of_settled (h.profile hprofile).1
        exact nomatch hnone.2.2.symm.trans hpending
      · exact Or.inr hother
      · have hnone := (h.selection hselection).1
        simp only [Hold.reconciling, hpending, Bool.or_true, Bool.true_eq_false] at hnone
    have hrequired : model.hold.catalogRequired = true →
        model.hold.catalogRequest.isSome = true := by
      intro hrequired
      rcases hwork with hrequest | hprofile | ⟨hpending, -⟩ | hselection
      · exact hrequest
      · exact nomatch (h.profile hprofile).1.2.2.symm.trans hrequired
      · have hnone := (h.catalogRequired hrequired).1
        simp only [Hold.reconciling, hpending, Bool.or_true, Bool.true_eq_false] at hnone
      · exact nomatch (h.selection hselection).2.symm.trans hrequired
    exact { h with
      waited := h.waited
      profiles := h.profiles
      catalog := fun hpending => Or.inr (hcatalog hpending)
      catalogRequired := fun hneeded =>
        ⟨(h.catalogRequired hneeded).1, Or.inl (hrequired hneeded)⟩ }
  rw [DesktopViewModel.beginCatalogRequest]
  split_ifs with hbusy hselection
  · refine hrefused _ rfl ?_
    simp only [Bool.or_eq_true, Bool.and_eq_true] at hbusy
    rcases hbusy with (hrequest | hprofile) | hother
    · exact Or.inl hrequest
    · exact Or.inr (Or.inl hprofile)
    · exact Or.inr (Or.inr (Or.inl hother))
  · refine hrefused _ rfl (Or.inr (Or.inr (Or.inr ?_)))
    rw [DesktopViewModel.hold, Option.isSome_map]
    exact hselection
  · exact { h with
      waited := by
        intro request hrequest
        rcases Hold.mem_waiting.1 hrequest with hother | hother | hother | hnew | hother
        · exact List.mem_cons_of_mem _ (h.waited _ (Hold.mem_waiting.2 (Or.inl hother)))
        · exact List.mem_cons_of_mem _ (h.waited _ (Hold.mem_waiting.2 (Or.inr (Or.inl hother))))
        · exact List.mem_cons_of_mem _
            (h.waited _ (Hold.mem_waiting.2 (Or.inr (Or.inr (Or.inl hother)))))
        · rw [← Option.some.inj hnew]
          exact List.mem_cons_self
        · exact List.mem_cons_of_mem _
            (h.waited _ (Hold.mem_waiting.2 (Or.inr (Or.inr (Or.inr (Or.inr hother))))))
      profiles := h.profiles
      catalog := fun _ => Or.inr (Or.inl rfl)
      catalogRequired := fun hneeded => ⟨(h.catalogRequired hneeded).1, Or.inl rfl⟩ }

/-- A selection is attended from its beginning. -/
theorem beginNodeSelection (h : Attended model.hold inFlight asked) (nodeId : String) :
    Attended (model.beginNodeSelection nodeId).2.hold
      (((model.beginNodeSelection nodeId).1.map fun request =>
        Request.selection request.token).toList ++ inFlight) asked := by
  rw [DesktopViewModel.beginNodeSelection]
  by_cases htaps : model.selectionAcceptsTaps = true
  · rw [if_neg (by rw [htaps]; exact Bool.false_ne_true)]
    simp only [DesktopViewModel.selectionAcceptsTaps, Bool.not_eq_true', Bool.and_eq_true] at htaps
    obtain ⟨⟨⟨⟨⟨⟨-, hprofile⟩, hreconciling⟩, himporting⟩, hrequired⟩, -⟩, -⟩ := htaps
    split
    · exact h
    · next revision group _ =>
      split_ifs
      · exact h.applied (Or.inl (model.hold_showSelected group.id nodeId))
      · have hselected : Attended { model.hold with
            selection := some (model.nextSelectionGeneration + 1) }
            (.selection (model.nextSelectionGeneration + 1) :: inFlight) asked :=
          { h with
            waited := by
              intro request hrequest
              rcases Hold.mem_waiting.1 hrequest with hother | hother | hother | hother | hnew
              · exact List.mem_cons_of_mem _ (h.waited _ (Hold.mem_waiting.2 (Or.inl hother)))
              · exact List.mem_cons_of_mem _
                  (h.waited _ (Hold.mem_waiting.2 (Or.inr (Or.inl hother))))
              · exact List.mem_cons_of_mem _
                  (h.waited _ (Hold.mem_waiting.2 (Or.inr (Or.inr (Or.inl hother)))))
              · exact List.mem_cons_of_mem _
                  (h.waited _ (Hold.mem_waiting.2 (Or.inr (Or.inr (Or.inr (Or.inl hother))))))
              · rw [← Option.some.inj hnew]
                exact List.mem_cons_self
            importing := fun himport => nomatch himporting.symm.trans himport
            profiles := h.profiles
            profile := fun hsome => nomatch hprofile.symm.trans hsome
            selection := fun _ => ⟨hreconciling, hrequired⟩ }
        let choose (hold : Hold) : Hold :=
          { hold with selection := some (model.nextSelectionGeneration + 1) }
        exact hselected.applied (Or.inl (congrArg choose (model.hold_showSelected group.id nodeId)))
  · rw [if_pos (by simpa using htaps)]
    exact h

/-- The answer of the choice of a route is in, and may require the catalog to be read again. -/
theorem selectionRead {hold : Hold} (h : Attended hold inFlight asked) (token : Nat)
    (hsome : hold.selection.isSome = true) (required : Bool) :
    Attended { hold with selection := none, catalogRequired := required }
      (inFlight.erase (.selection token)) (asked || required) := by
  obtain ⟨hreconciling, hrequired⟩ := h.selection hsome
  exact { h with
    waited := by
      refine h.waited_erase fun other hother => ?_
      rcases Hold.mem_waiting.1 hother with hmutation | hprofile | hlist | hcatalog | hselection
      · refine ⟨Hold.mem_waiting.2 (Or.inl hmutation), ?_⟩
        rintro rfl
        simp [Hold.mutationRequests] at hmutation
      · refine ⟨Hold.mem_waiting.2 (Or.inr (Or.inl hprofile)), ?_⟩
        rintro rfl
        simp [Hold.profileRequests] at hprofile
      · refine ⟨Hold.mem_waiting.2 (Or.inr (Or.inr (Or.inl hlist))), ?_⟩
        rintro rfl
        simp at hlist
      · refine ⟨Hold.mem_waiting.2 (Or.inr (Or.inr (Or.inr (Or.inl hcatalog)))), ?_⟩
        rintro rfl
        simp at hcatalog
      · exact nomatch hselection
    importing := fun himport => by
      rw [(h.importing himport).1.2.1] at hsome
      exact nomatch hsome
    profiles := h.profiles_erase rfl
    profile := fun hprofile => by
      rw [(h.profile hprofile).1.2.1] at hsome
      exact nomatch hsome
    selection := fun hnone => nomatch hnone
    catalogRequired := fun hneeded => by
      have hneeded : required = true := hneeded
      rw [hneeded, Bool.or_true]
      exact ⟨hreconciling, Or.inr rfl⟩ }

/-- The answer to a selection leaves the rest attended. -/
theorem finishNodeSelection (h : Attended model.hold inFlight asked) (externals : Externals)
    (token : Nat) (result : Except DaemonError DaemonCatalog) :
    Attended (model.finishNodeSelection externals token result).2.hold
      (inFlight.erase (.selection token))
      (asked || (model.finishNodeSelection externals token result).1 = some true) := by
  have hignored : model.hold.selection ≠ some token →
      Attended model.hold (inFlight.erase (.selection token)) asked := by
    intro hother
    refine h.erase fun hwaits => hother ?_
    rcases Hold.mem_waiting.1 hwaits with hmutation | hprofile | hlist | hcatalog | hselection
    · simp [Hold.mutationRequests] at hmutation
    · simp [Hold.profileRequests] at hprofile
    · simp at hlist
    · simp at hcatalog
    · obtain ⟨other, hsome, hrequest⟩ := Option.map_eq_some_iff.1 hselection
      rw [← Request.selection.inj hrequest]
      exact hsome
  unfold DesktopViewModel.finishNodeSelection
  split
  · next hnone =>
    rw [decide_eq_false (fun h => by cases h), Bool.or_false]
    refine hignored ?_
    rw [DesktopViewModel.hold, hnone]
    exact fun h => by cases h
  · next active hactive =>
    split_ifs with hother
    · rw [decide_eq_false (fun h => by cases h), Bool.or_false]
      refine hignored ?_
      rw [DesktopViewModel.hold, hactive]
      exact fun hsame => hother (Option.some.inj hsame)
    · have hsome : model.hold.selection.isSome = true := by
        rw [DesktopViewModel.hold, hactive]
        rfl
      cases result with
      | ok catalog =>
        let require (hold : Hold) : Hold := { hold with catalogRequired := true }
        rw [decide_eq_true rfl]
        exact (h.selectionRead token hsome true).applied (Or.inl (congrArg require
          (DesktopViewModel.hold_replaceCatalog externals { model with activeSelection := none }
            catalog)))
      | error error =>
        have hread := h.selectionRead token hsome
          (error.isStaleRevision || error.requiresReconciliation || model.catalogRequestDeferred)
        have hasked : ∀ refresh : Bool, decide (some refresh = some true) = refresh := by decide
        dsimp only
        rw [hasked]
        exact hread

/-- The status that is polled leaves everything attended. -/
theorem noteConnectionStatus (h : Attended model.hold inFlight asked)
    (result : Except DaemonError DaemonStatus) (now : Nat) :
    Attended (model.noteConnectionStatus result now).2.hold inFlight asked := by
  unfold DesktopViewModel.noteConnectionStatus
  cases result with
  | error error => exact h
  | ok status =>
    dsimp only
    split_ifs
    · exact h
    · exact h
    · exact h.applied ((model.expireNotices now).hold_applyDaemonStatus status)
    · exact h.applied ((model.expireNotices now).hold_applyDaemonStatus status)
    · exact h.applied ((model.expireNotices now).hold_applyDaemonStatus status)

/-- The next request of a reconciliation is attended. -/
theorem advanceProfileReconciliation {session : Session}
    (h : Attended session.model.hold session.inFlight session.catalogAsked) :
    Attended session.advanceProfileReconciliation.model.hold
      session.advanceProfileReconciliation.inFlight
      session.advanceProfileReconciliation.catalogAsked := by
  rw [Session.advanceProfileReconciliation]
  dsimp only
  split_ifs with hstatus hlist hcatalog
  · have hpending : session.model.profileStatusReconciliationPending = true :=
      h.statusReload hstatus
    have himporting : session.model.importPending = false := by
      rw [← Bool.not_eq_true]
      intro himporting
      have hnone := statusPending_of_settled (h.importing himporting).1
      exact nomatch hnone.1.symm.trans hpending
    have hsame : ({ session.model with
        profileStatusReloadNeeded := false } : DesktopViewModel).beginRefresh =
          session.model.beginRefresh := by
      simp only [DesktopViewModel.beginRefresh, hpending, Bool.not_true, Bool.false_and]
    rw [hsame]
    exact h.beginRefresh himporting
  · exact h.beginProfileList
  · exact h.beginCatalogRequest false session.catalogAsked
  · exact h

end

end Attended
end MultiCore.Desktop
