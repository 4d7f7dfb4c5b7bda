import Sep2Bridge.Scheduler.Reach

/-!
# Devices that are no longer listed

Devices are stored by LFDI, since an href may refer to a different device over time, but the sweep
collects them by href: a device that the server removed stays while its href is linked for
whatever reason.

**The condition** (`Releases`). When a list of devices is merged in, no stored device that it
leaves out has an href that is then still linked.

**The property** (`Gone`). A device that the last list leaves out has no data in the model.

A run has the property in each of its states if and only if each of its steps meets the condition
(`removed_gone_iff`).
-/

namespace Sep2Bridge

open Lib

namespace Sep2Model

/-! ## What a list of devices leaves linked -/

/-- The devices that are stored for a list: of two with one LFDI the later. -/
def listedDevices (edl : EndDeviceList) : List EndDevice :=
  edl.endDevice.filterMap fun edev => edev.lfdi.bind fun lfdi =>
    edl.endDevice.reverse.find? fun edev => edev.lfdi = some lfdi

/-- The href is linked once the list is merged in: by the `DeviceCapability`, as the list's own,
or by one of its devices. -/
def LinkedWith (m : Sep2Model) (edl : EndDeviceList) (href : String) : Prop :=
  href ∈ m.dcapLinks.map Prod.fst ∨ edl.href = some href ∨
    ∃ edev ∈ listedDevices edl, edev.href = some href ∨ href ∈ m.endDeviceLinks edev

/-- No stored device that the list leaves out has an href that stays linked. -/
def Releases (m : Sep2Model) (edl : EndDeviceList) : Prop :=
  ∀ e ∈ m.endDevices.entries, (∀ edev ∈ edl.endDevice, edev.lfdi ≠ some e.1) →
    ∀ href ∈ e.2.href, ¬m.LinkedWith edl href

variable {m : Sep2Model} {edl : EndDeviceList}

theorem mem_listedDevices {edev : EndDevice} :
    edev ∈ listedDevices edl ↔ ∃ lfdi, (∃ d ∈ edl.endDevice, d.lfdi = some lfdi) ∧
      (m.endDevices.insertItems EndDevice.lfdi edl.endDevice).get? lfdi = some edev := by
  simp only [listedDevices, List.mem_filterMap, Option.bind_eq_some_iff]
  constructor
  · rintro ⟨d, hd, lfdi, hlfdi, hfind⟩
    refine ⟨lfdi, ⟨d, hd, hlfdi⟩, ?_⟩
    rw [HashMap.get?_insertItems, hfind, Option.some_or]
  · rintro ⟨lfdi, ⟨d, hd, hlfdi⟩, hget⟩
    refine ⟨d, hd, lfdi, hlfdi, ?_⟩
    have hsome : (edl.endDevice.reverse.find? fun edev => edev.lfdi = some lfdi).isSome :=
      List.find?_isSome.2 ⟨d, List.mem_reverse.2 hd, decide_eq_true hlfdi⟩
    rw [HashMap.get?_insertItems, Option.or_of_isSome hsome] at hget
    exact hget

/-- The links that the merged model needs. -/
theorem mem_resourceLinks_setEndDeviceList {href : String} (hhref : edl.href.isSome) :
    href ∈ (m.setEndDeviceList edl).resourceLinks ↔ m.LinkedWith edl href := by
  obtain ⟨listHref, hlistHref⟩ := Option.isSome_iff_exists.1 hhref
  have hdcap : (m.setEndDeviceList edl).dcapLinks.map Prod.fst = m.dcapLinks.map Prod.fst := by
    simp only [setEndDeviceList_eq hlistHref, dcapLinks, List.map_flatMap, List.map_append,
      List.map_map]
    rfl
  have hbelow : (m.setEndDeviceList edl).endDeviceLinks = m.endDeviceLinks := by
    rw [setEndDeviceList_eq hlistHref]
    rfl
  rw [mem_resourceLinks, hdcap, hbelow, LinkedWith, hlistHref, setEndDeviceList_eq hlistHref]
  refine or_congr_right ?_
  simp only [Option.mem_def, Option.some_inj, exists_eq_left', mem_listItems]
  refine or_congr eq_comm (exists_congr fun edev => and_congr_left fun _ => ?_)
  rw [mem_listedDevices (m := m)]
  simp only [List.mem_filterMap]

/-- Nothing is known of the device. -/
structure NoDevice (m : Sep2Model) (lfdi : HexBinary160) : Prop where
  device : m.getEndDevice lfdi = none
  pollRate : m.derListPollRate lfdi = none
  controls : ∀ now, m.allControlsForDevice lfdi now = []

/-- Everything about a device starts from its entry. -/
theorem noDevice_iff {lfdi : HexBinary160} : m.NoDevice lfdi ↔ m.endDevices.get? lfdi = none := by
  constructor
  · intro h
    exact h.device
  · intro h
    have hdevice : m.getEndDevice lfdi = none := h
    refine ⟨hdevice, ?_, fun now => ?_⟩
    · rw [derListPollRate, h]
      rfl
    · have hprograms : m.devicePrograms lfdi = [] := by simp [devicePrograms, hdevice]
      rw [allControlsForDevice, hprograms]
      rfl

end Sep2Model

/-! ## Runs -/

/-- The list has a device with the LFDI. -/
def EndDeviceList.Lists (edl : EndDeviceList) (lfdi : HexBinary160) : Prop :=
  ∃ edev ∈ edl.endDevice, edev.lfdi = some lfdi

/-- The model, and the list of devices that was applied last. -/
structure DeviceFeed where
  model : Sep2Model := {}
  listed : Option EndDeviceList := none

namespace DeviceFeed

variable {s t : DeviceFeed} {l : Surroundings × Sep2ResourceEvent}

/-- The list of devices that an update applies. One without an href is not applied. -/
def applied : Sep2ResourceEvent → Option EndDeviceList
  | .endDeviceList edl => if edl.href.isSome then some edl else none
  | _ => none

/-- One update, with what it takes from outside. -/
def step (s : DeviceFeed) (l : Surroundings × Sep2ResourceEvent) : Option DeviceFeed :=
  (s.model.applyUpdate l.1 l.2).map fun r => ⟨r.1, (applied l.2).or s.listed⟩

/-- Nothing is known of a device that the last list leaves out. -/
def Gone (s : DeviceFeed) : Prop :=
  ∀ edl ∈ s.listed, ∀ lfdi, ¬edl.Lists lfdi → s.model.NoDevice lfdi

/-- A list of devices that is applied releases the devices that it leaves out. -/
def Releases (s : DeviceFeed) (l : Surroundings × Sep2ResourceEvent) : Prop :=
  ∀ edl ∈ applied l.2, s.model.Releases edl

/-- Every stored device is on the last list. -/
def Inv (s : DeviceFeed) : Prop :=
  ∀ lfdi edev, s.model.endDevices.get? lfdi = some edev → ∃ edl ∈ s.listed, edl.Lists lfdi

theorem applied_eq_some {u : Sep2ResourceEvent} {edl : EndDeviceList} (h : applied u = some edl) :
    u = .endDeviceList edl ∧ edl.href.isSome := by
  unfold applied at h
  split at h
  · split_ifs at h with hhref
    cases h
    exact ⟨rfl, hhref⟩
  · cases h

/-- Without a list that is applied, no device is added. -/
theorem devices_of_not_applied (h : s.step l = some t) (happlied : applied l.2 = none) :
    t.listed = s.listed ∧ ∀ lfdi edev, t.model.endDevices.get? lfdi = some edev →
      s.model.endDevices.get? lfdi = some edev := by
  obtain ⟨⟨model, events⟩, hupdate, rfl⟩ := Option.map_eq_some_iff.1 h
  obtain ⟨merged, responses, hset, rfl, -⟩ := Sep2Model.applyUpdate_eq_some.1 hupdate
  refine ⟨by rw [happlied, Option.none_or], fun lfdi edev hget => ?_⟩
  have hmerged : merged.endDevices = s.model.endDevices := by
    by_cases hlist : ∃ edl, l.2 = .endDeviceList edl
    · obtain ⟨edl, hedl⟩ := hlist
      rw [hedl] at happlied hset
      have hhref : edl.href = none := by
        simpa [applied] using happlied
      cases hset
      simp [Sep2Model.setEndDeviceList, hhref]
    · exact ((Sep2Model.setResource_frame hset).1 fun edl hedl => hlist ⟨edl, hedl⟩).1
  have hkept := (HashMap.get?_retain_eq_some.1 hget).1
  rwa [hmerged] at hkept

theorem listed_of_applied {edl : EndDeviceList} (h : s.step l = some t)
    (happlied : applied l.2 = some edl) : t.listed = some edl := by
  obtain ⟨r, -, rfl⟩ := Option.map_eq_some_iff.1 h
  show (applied l.2).or s.listed = some edl
  rw [happlied, Option.some_or]

/-- What is stored after a list was applied. -/
theorem get?_of_applied {edl : EndDeviceList} (h : s.step l = some t)
    (happlied : applied l.2 = some edl) {lfdi : HexBinary160} {edev : EndDevice} :
    t.model.endDevices.get? lfdi = some edev ↔
      (s.model.endDevices.insertItems EndDevice.lfdi edl.endDevice).get? lfdi = some edev ∧
        ∃ href, edev.href = some href ∧ s.model.LinkedWith edl href := by
  obtain ⟨⟨model, events⟩, hupdate, rfl⟩ := Option.map_eq_some_iff.1 h
  obtain ⟨merged, responses, hset, rfl, -⟩ := Sep2Model.applyUpdate_eq_some.1 hupdate
  obtain ⟨hedl, hhref⟩ := applied_eq_some happlied
  rw [hedl] at hset
  cases hset
  obtain ⟨listHref, hlistHref⟩ := Option.isSome_iff_exists.1 hhref
  have htable : (s.model.setEndDeviceList edl).endDevices =
      s.model.endDevices.insertItems EndDevice.lfdi edl.endDevice := by
    rw [Sep2Model.setEndDeviceList_eq hlistHref]
  rw [← htable]
  refine HashMap.get?_retain_eq_some.trans (and_congr_right fun _ => ?_)
  rw [Sep2Model.isTracked_iff]
  constructor
  · rintro ⟨href, hlinked, heq⟩
    exact ⟨href, heq, (Sep2Model.mem_resourceLinks_setEndDeviceList hhref).1 hlinked⟩
  · rintro ⟨href, heq, hlinked⟩
    exact ⟨href, (Sep2Model.mem_resourceLinks_setEndDeviceList hhref).2 hlinked, heq⟩

/-- The step of a run: the condition holds if and only if the property holds afterwards. -/
theorem releases_iff_gone (hs : s.Inv) (h : s.step l = some t) : s.Releases l ↔ t.Gone := by
  cases happlied : applied l.2 with
  | none =>
    obtain ⟨hlisted, hkept⟩ := devices_of_not_applied h happlied
    constructor
    · intro _ edl hedl lfdi hnot
      rw [hlisted] at hedl
      rw [Sep2Model.noDevice_iff]
      cases hget : t.model.endDevices.get? lfdi with
      | none => rfl
      | some edev =>
        obtain ⟨edl', hedl', hlists⟩ := hs lfdi edev (hkept lfdi edev hget)
        cases Option.mem_unique hedl hedl'
        exact absurd hlists hnot
    · intro _ edl hedl
      rw [happlied] at hedl
      cases hedl
  | some edl =>
    have hlisted := listed_of_applied h happlied
    constructor
    · intro hrel edl' hedl' lfdi hnot
      rw [hlisted] at hedl'
      cases hedl'
      rw [Sep2Model.noDevice_iff]
      cases hget : t.model.endDevices.get? lfdi with
      | none => rfl
      | some edev =>
        obtain ⟨hins, href, hhref, hlinked⟩ := (get?_of_applied h happlied).1 hget
        have hunlisted : ∀ d ∈ edl.endDevice, d.lfdi ≠ some lfdi :=
          fun d hd hd' => hnot ⟨d, hd, hd'⟩
        rw [HashMap.get?_insertItems_of_forall_ne hunlisted] at hins
        have hentry := HashMap.mem_entries_iff.2 hins
        exact absurd hlinked (hrel edl happlied _ hentry hunlisted href hhref)
    · intro hgone edl' hedl' e he hunlisted href hhref hlinked
      rw [happlied] at hedl'
      cases hedl'
      have hnone := (hgone edl hlisted e.1 fun ⟨d, hd, hd'⟩ => hunlisted d hd hd').device
      have hget : t.model.endDevices.get? e.1 = some e.2 := by
        refine (get?_of_applied h happlied).2 ⟨?_, href, hhref, hlinked⟩
        rw [HashMap.get?_insertItems_of_forall_ne hunlisted]
        exact HashMap.mem_entries_iff.1 he
      exact absurd (hnone.symm.trans hget) (by simp)

theorem inv_step (hs : s.Inv) (h : s.step l = some t) (hgone : t.Gone) : t.Inv := by
  intro lfdi edev hget
  cases happlied : applied l.2 with
  | none =>
    obtain ⟨hlisted, hkept⟩ := devices_of_not_applied h happlied
    rw [hlisted]
    exact hs lfdi edev (hkept lfdi edev hget)
  | some edl =>
    have hlisted := listed_of_applied h happlied
    refine ⟨edl, hlisted, ?_⟩
    by_contra hnot
    have hnone := (hgone edl hlisted lfdi hnot).device
    exact absurd (hnone.symm.trans hget) (by simp)

/-- **A device that the server removed is gone**, in each state of a run, if and only if each list
of devices releases those that it leaves out. -/
theorem removed_gone_iff {ls : List (Surroundings × Sep2ResourceEvent)}
    (h : run step {} ls = some t) :
    Exec step Releases {} ls t ↔ ∀ ls' u, ls' <+: ls → run step {} ls' = some u → u.Gone := by
  refine exec_iff_forall_prefix (fun s l t => releases_iff_gone) (fun s l t => inv_step) ?_ ?_ h
  · intro lfdi edev hget
    cases hget
  · intro edl hedl
    cases hedl

/-! ## An href that goes to another device -/

instance (m : Sep2Model) (edl : EndDeviceList) (href : String) :
    Decidable (m.LinkedWith edl href) := by
  unfold Sep2Model.LinkedWith; infer_instance

instance (m : Sep2Model) (edl : EndDeviceList) : Decidable (m.Releases edl) := by
  unfold Sep2Model.Releases; infer_instance

instance (s : DeviceFeed) (l : Surroundings × Sep2ResourceEvent) : Decidable (s.Releases l) := by
  unfold Releases; infer_instance

/-- A list with one device. -/
def oneDevice (href : String) (lfdi : HexBinary160) : Surroundings × Sep2ResourceEvent :=
  plainUpdate (.endDeviceList
    { href := some "/edev", endDevice := [{ href := some href, lfdi := some lfdi }] })

theorem removed_gone_iff_oneDevice : ∃ t,
    run step {} [oneDevice "/edev/1" 1, oneDevice "/edev/2" 2] = some t ∧
      ∀ ls' u, ls' <+: [oneDevice "/edev/1" 1, oneDevice "/edev/2" 2] →
        run step {} ls' = some u → u.Gone := by
  have hruns : (runIf step Releases {}
    [oneDevice "/edev/1" 1, oneDevice "/edev/2" 2]).isSome = true := by decide
  obtain ⟨t, ht⟩ := Option.isSome_iff_exists.1 hruns
  have hexec := exec_iff_runIf.2 ht
  have hrun := exec_true_iff.1 (hexec.weaken fun _ _ _ => trivial)
  exact ⟨t, hrun, (removed_gone_iff hrun).1 hexec⟩

/-- The href of the first device is given to the second, and the first stays. -/
theorem removed_device_stays :
    ¬∀ (ls : List (Surroundings × Sep2ResourceEvent)) (t : DeviceFeed),
      run step {} ls = some t → t.Gone := by
  intro h
  have hruns : ((run step {} [oneDevice "/edev/1" 1, oneDevice "/edev/1" 2]).any fun t =>
      t.listed = some ⟨some "/edev", none, 0, [{ href := some "/edev/1", lfdi := some 2 }]⟩ ∧
        (t.model.getEndDevice 1).isSome) = true := by decide
  obtain ⟨t, ht, hstays⟩ := (Option.any_eq_true _ _).1 hruns
  obtain ⟨hlisted, hsome⟩ := of_decide_eq_true hstays
  have hnone := (h _ t ht _ hlisted 1 (by simp [EndDeviceList.Lists])).device
  rw [hnone] at hsome
  cases hsome

end DeviceFeed

end Sep2Bridge
