import ProcessMeter.Proofs.ControllerIsolation

/-!
# How sampling a process ends

Sampling a process reads its state, its pages, its owner, its input and output, its network counters
and its cgroup, in this order. Each of these items either passes, or fails in a way that the files
determine: the sample is there if all items pass, and otherwise the first item that does not pass
gives the failure. Some items are vital, and a vital file that is gone means that the process is
gone, whether the system answers so when the file is opened or when it is read. The others may be
missing or unreadable, only nonsense in them is a failure. The history, the command line and the
environment have no part in it.
-/

namespace ProcessMeter

open FileTree

namespace Cgroup.Locator

variable {locator : Locator} {pid : Nat} {w : World}

/-- Placing a process by its membership lines does not blame the membership file. -/
private theorem place_ne_membership {entries : List Membership} {owner : Nat}
    {failure : PathFailure} :
    locator.place pid entries ≠ .error (.membership owner failure) := by
  unfold place placeUnified placeLegacy
  cases locator.version entries with
  | hybrid => simp
  | v2 =>
    cases locator.mounts.unified with
    | none => simp
    | some mount =>
      cases entries.find? Membership.isUnified with
      | none => dsimp only; split <;> simp
      | some entry => dsimp only; split <;> simp
  | v1 =>
    dsimp only
    split
    · simp
    · split
      · simp
      · simp

/-- A process that cannot be placed is gone if its membership file is, and only then. -/
theorem meansProcessGone_of_locate {failure : CgroupFailure}
    (h : (locator.locate pid).outcome w = .error (.failed failure)) :
    failure.meansProcessGone = true ↔ w.files.Gone (locator.membershipFile pid) := by
  rcases hread : (Stat.read (locator.membershipFile pid) Membership.readAll).outcome w with
    (cause | _) | entries
  · have hmembership : (locator.membership pid).outcome w =
        .error (.failed (.membership pid cause)) := by
      rw [membership, Probe.outcome_mapFailure, hread]
    rw [locate, Probe.outcome_bind, hmembership] at h
    obtain rfl : .membership pid cause = failure := by simpa [Except.bind] using h
    exact Stat.isGone_of_read (Lines.foldLines_honest _ _) hread
  · exact absurd hread (Stat.read_neverOverflows _ _ w)
  · have hmembership : (locator.membership pid).outcome w = .ok entries :=
      Probe.outcome_mapFailure_eq_ok.mpr hread
    have hthere : ¬ w.files.Gone (locator.membershipFile pid) :=
      Stat.not_failsAs_of_read (Lines.foldLines_honest _ _) hread _
    rw [outcome_locate hmembership] at h
    cases hplace : locator.place pid entries with
    | ok placement => simp [hplace] at h
    | error cause =>
      obtain rfl : cause = failure := by simpa [hplace] using h
      cases cause with
      | membership owner failure => exact absurd hplace place_ne_membership
      | _ => simp [CgroupFailure.meansProcessGone, hthere]

end Cgroup.Locator

/-- Reading the cgroup of a process fails exactly where placing it does, and alike. -/
theorem Cgroup.Accounting.outcome_read_eq_failed {accounting : Accounting} {pid : Nat} {w : World}
    {failure : CgroupFailure} :
    (accounting.read pid).outcome w = .error (.failed failure) ↔
      (accounting.locator.locate pid).outcome w = .error (.failed failure) := by
  constructor
  · intro h
    rcases (accounting.locator.locate_neverOverflows pid).outcome_cases w with
      ⟨placement, hlocate⟩ | ⟨cause, hlocate⟩
    · by_cases hoverflow : accounting.BlockIoOverflows pid w
      · simp [outcome_read_eq_overflow.mpr hoverflow] at h
      · obtain ⟨reading, hread, -⟩ := exists_reading_of_locate hlocate hoverflow
        simp [hread] at h
    · have hread : (accounting.read pid).outcome w = .error (.failed cause) :=
        Probe.outcome_bind_eq_error.mpr (Or.inl hlocate)
      obtain rfl : cause = failure := by simpa [hread] using h
      exact hlocate
  · exact fun h => Probe.outcome_bind_eq_error.mpr (Or.inl h)

/-- What is read of a process and can prevent a sample. -/
inductive SamplingItem where
  /-- Its state and times. -/
  | state
  /-- The pages of its memory. -/
  | pages
  /-- Its owner. -/
  | owner
  /-- Its input and output. -/
  | io
  /-- Its network counters. -/
  | network
  /-- Its cgroup. -/
  | cgroup
  deriving DecidableEq, Repr

/-- The items in the order in which they are read. -/
def SamplingItem.inOrder : List SamplingItem := [.state, .pages, .owner, .io, .network, .cgroup]

/-- Every item is read at some place in the order. -/
theorem SamplingItem.mem_inOrder (item : SamplingItem) : item ∈ inOrder := by
  cases item <;> decide

namespace KernelSampler

variable (k : KernelSampler) (pid : Nat) (w : World)

/-- What an item needs in order not to prevent a sample. -/
def Passes : SamplingItem → Prop
  | .state => ∃ text r, w.files.readText (Procfs.file k.rootfs pid "stat") = .ok text ∧
      ProcessRecord.read text = .ok r
  | .pages => ∃ pages,
      (Stat.read (Procfs.file k.rootfs pid "statm") (PageCounts.readLines k.units)).outcome w =
        .ok pages
  | .owner =>
    Procfs.WellFormed (Stat.read (Procfs.file k.rootfs pid "status") ProcessOwner.readLines) w
  | .io => Procfs.WellFormed (Stat.read (Procfs.file k.rootfs pid "io") IoCounters.readLines) w
  | .network => k.network = true →
      Procfs.WellFormed (Procfs.readNetwork (Procfs.file k.rootfs pid "net/dev")) w
  | .cgroup => ∀ accounting, k.cgroups = some accounting →
      (∃ placement, (accounting.locator.locate pid).outcome w = .ok placement) ∨
      ∃ owner path,
        (accounting.locator.locate pid).outcome w = .error (.failed (.inRoot owner path))

/-- How an item prevents a sample. -/
inductive FailsWith : SamplingItem → ProcessFailure → Prop
  | stateGone (hgone : w.files.Gone (Procfs.file k.rootfs pid "stat")) :
    FailsWith .state (.notFound pid)
  | stateUnreadable {f : FileFailure}
    (hthere : ¬ w.files.Gone (Procfs.file k.rootfs pid "stat"))
    (h : w.files.readText (Procfs.file k.rootfs pid "stat") = .error f) :
    FailsWith .state (.unreadable ⟨Procfs.file k.rootfs pid "stat", .file f⟩)
  | stateMalformed {text : Text} {error : StatError}
    (htext : w.files.readText (Procfs.file k.rootfs pid "stat") = .ok text)
    (h : ProcessRecord.read text = .error error) :
    FailsWith .state (.malformed (Procfs.file k.rootfs pid "stat") error.message)
  | pagesGone (hgone : w.files.Gone (Procfs.file k.rootfs pid "statm")) :
    FailsWith .pages (.notFound pid)
  | pagesUnreadable {reason : ReadFailure}
    (hthere : ¬ w.files.Gone (Procfs.file k.rootfs pid "statm"))
    (h : (Stat.read (Procfs.file k.rootfs pid "statm") (PageCounts.readLines k.units)).outcome w =
      .error (.failed ⟨Procfs.file k.rootfs pid "statm", reason⟩)) :
    FailsWith .pages (.unreadable ⟨Procfs.file k.rootfs pid "statm", reason⟩)
  | ownerMalformed {error : StatError}
    (h : (Stat.read (Procfs.file k.rootfs pid "status") ProcessOwner.readLines).outcome w =
      .error (.failed ⟨Procfs.file k.rootfs pid "status", .malformed error⟩)) :
    FailsWith .owner (.unreadable ⟨Procfs.file k.rootfs pid "status", .malformed error⟩)
  | ioMalformed {error : StatError}
    (h : (Stat.read (Procfs.file k.rootfs pid "io") IoCounters.readLines).outcome w =
      .error (.failed ⟨Procfs.file k.rootfs pid "io", .malformed error⟩)) :
    FailsWith .io (.unreadable ⟨Procfs.file k.rootfs pid "io", .malformed error⟩)
  | networkMalformed {error : StatError} (hnetwork : k.network = true)
    (h : (Procfs.readNetwork (Procfs.file k.rootfs pid "net/dev")).outcome w =
      .error (.failed ⟨Procfs.file k.rootfs pid "net/dev", .malformed error⟩)) :
    FailsWith .network (.unreadable ⟨Procfs.file k.rootfs pid "net/dev", .malformed error⟩)
  | cgroupGone {accounting : Cgroup.Accounting} (hcgroups : k.cgroups = some accounting)
    (hgone : w.files.Gone (accounting.locator.membershipFile pid)) :
    FailsWith .cgroup (.notFound pid)
  | cgroupFailed {accounting : Cgroup.Accounting} {failure : CgroupFailure}
    (hcgroups : k.cgroups = some accounting)
    (hthere : ¬ w.files.Gone (accounting.locator.membershipFile pid))
    (hroot : ∀ owner path, failure ≠ .inRoot owner path)
    (h : (accounting.locator.locate pid).outcome w = .error (.failed failure)) :
    FailsWith .cgroup (.cgroup failure)

/-- The first of some items that does not pass, and how it fails. -/
inductive FailsFirst : List SamplingItem → SamplingItem → ProcessFailure → Prop
  | here {item : SamplingItem} {rest : List SamplingItem} {failure : ProcessFailure}
    (h : k.FailsWith pid w item failure) : FailsFirst (item :: rest) item failure
  | there {item culprit : SamplingItem} {rest : List SamplingItem} {failure : ProcessFailure}
    (hpasses : k.Passes pid w item) (h : FailsFirst rest culprit failure) :
    FailsFirst (item :: rest) culprit failure

/-- The file that tells whether the process is still there when an item is read. -/
def vitalFile? : SamplingItem → Option Path
  | .state => some (Procfs.file k.rootfs pid "stat")
  | .pages => some (Procfs.file k.rootfs pid "statm")
  | .cgroup => k.cgroups.map fun accounting => accounting.locator.membershipFile pid
  | _ => none

/-- Some items decide how a probe ends: with a value if they all pass, and else as the first one
that does not. An overflow is left out. -/
structure EndsBy {α : Type} (items : List SamplingItem)
    (result : Except (Fault ProcessFailure) α) : Prop where
  /-- There is only a value if all items pass. -/
  passes : ∀ a, result = .ok a → ∀ item ∈ items, k.Passes pid w item
  /-- There is only a failure where some item fails first. -/
  fails : ∀ failure, result = .error (.failed failure) →
    ∃ item, k.FailsFirst pid w items item failure

variable {k pid w} {item : SamplingItem} {items more : List SamplingItem}
  {failure failure' : ProcessFailure}

/-- A file that is gone has no text. -/
private theorem exists_readText_of_gone {path : Path} (h : w.files.Gone path) :
    ∃ f, w.files.readText path = .error f := by
  obtain ⟨f, hf, -⟩ := h
  exact ⟨f, by rw [FileTree.readText, hf]⟩

/-- A process whose membership file is gone cannot be placed. -/
private theorem exists_locate_of_gone {locator : Cgroup.Locator}
    (h : w.files.Gone (locator.membershipFile pid)) :
    ∃ f, (locator.locate pid).outcome w = .error (.failed
      (.membership pid ⟨locator.membershipFile pid, .file f⟩)) := by
  obtain ⟨f, hf, -⟩ := h
  have hread : (Stat.read (locator.membershipFile pid) Membership.readAll).outcome w =
      .error (.failed ⟨locator.membershipFile pid, .file f⟩) :=
    Stat.outcome_read_of_error (Lines.foldLines_honest _ _) hf
  refine ⟨f, Probe.outcome_bind_eq_error.mpr (Or.inl ?_)⟩
  rw [Cgroup.Locator.membership, Probe.outcome_mapFailure, hread]

/-- An item that fails does not pass. -/
theorem FailsWith.not_passes (h : k.FailsWith pid w item failure) : ¬ k.Passes pid w item := by
  intro hpasses
  cases h with
  | stateGone hgone =>
    obtain ⟨text, r, htext, -⟩ := hpasses
    obtain ⟨f, hf⟩ := exists_readText_of_gone hgone
    simp [hf] at htext
  | stateUnreadable _ h =>
    obtain ⟨text, r, htext, -⟩ := hpasses
    simp [h] at htext
  | stateMalformed htext h =>
    obtain ⟨text', r, htext', hr⟩ := hpasses
    obtain rfl := Except.ok.inj (htext.symm.trans htext')
    simp [h] at hr
  | pagesGone hgone =>
    obtain ⟨pages, hpages⟩ := hpasses
    exact Stat.not_failsAs_of_read (Scalar.readFirst_honest _) hpages _ hgone
  | pagesUnreadable _ h =>
    obtain ⟨pages, hpages⟩ := hpasses
    simp [h] at hpages
  | ownerMalformed h => exact absurd (hpasses _ h) (by simp [PathFailure.isMalformed])
  | ioMalformed h => exact absurd (hpasses _ h) (by simp [PathFailure.isMalformed])
  | networkMalformed hnetwork h =>
    exact absurd (hpasses hnetwork _ h) (by simp [PathFailure.isMalformed])
  | cgroupGone hcgroups hgone =>
    obtain ⟨f, hf⟩ := exists_locate_of_gone hgone
    rcases hpasses _ hcgroups with ⟨placement, h⟩ | ⟨owner, path, h⟩
    · simp [hf] at h
    · simp [hf] at h
  | cgroupFailed hcgroups _ hroot h =>
    rcases hpasses _ hcgroups with ⟨placement, h'⟩ | ⟨owner, path, h'⟩
    · simp [h] at h'
    · rw [h, Except.error.injEq, Fault.failed.injEq] at h'
      exact hroot owner path h'

/-- An item fails in one way. -/
theorem FailsWith.unique (h : k.FailsWith pid w item failure)
    (h' : k.FailsWith pid w item failure') : failure = failure' := by
  cases h with
  | stateGone hgone =>
    cases h' with
    | stateGone => rfl
    | stateUnreadable hthere => exact absurd hgone hthere
    | stateMalformed htext =>
      obtain ⟨f, hf⟩ := exists_readText_of_gone hgone
      simp [hf] at htext
  | stateUnreadable hthere h =>
    cases h' with
    | stateGone hgone => exact absurd hgone hthere
    | stateUnreadable _ h' => rw [Except.error.inj (h.symm.trans h')]
    | stateMalformed htext => simp [h] at htext
  | stateMalformed htext h =>
    cases h' with
    | stateGone hgone =>
      obtain ⟨f, hf⟩ := exists_readText_of_gone hgone
      simp [hf] at htext
    | stateUnreadable _ h' => simp [h'] at htext
    | stateMalformed htext' h' =>
      obtain rfl := Except.ok.inj (htext.symm.trans htext')
      rw [Except.error.inj (h.symm.trans h')]
  | pagesGone hgone =>
    cases h' with
    | pagesGone => rfl
    | pagesUnreadable hthere => exact absurd hgone hthere
  | pagesUnreadable hthere h =>
    cases h' with
    | pagesGone hgone => exact absurd hgone hthere
    | pagesUnreadable _ h' => simpa using h.symm.trans h'
  | ownerMalformed h =>
    cases h' with
    | ownerMalformed h' => simpa using h.symm.trans h'
  | ioMalformed h =>
    cases h' with
    | ioMalformed h' => simpa using h.symm.trans h'
  | networkMalformed _ h =>
    cases h' with
    | networkMalformed _ h' => simpa using h.symm.trans h'
  | cgroupGone hcgroups hgone =>
    cases h' with
    | cgroupGone => rfl
    | cgroupFailed hcgroups' hthere =>
      obtain rfl := Option.some.inj (hcgroups.symm.trans hcgroups')
      exact absurd hgone hthere
  | cgroupFailed hcgroups hthere _ h =>
    cases h' with
    | cgroupGone hcgroups' hgone =>
      obtain rfl := Option.some.inj (hcgroups.symm.trans hcgroups')
      exact absurd hgone hthere
    | cgroupFailed hcgroups' _ _ h' =>
      obtain rfl := Option.some.inj (hcgroups.symm.trans hcgroups')
      simpa using h.symm.trans h'

/-- Where an item fails first, not all of them pass. -/
theorem FailsFirst.not_passes {culprit : SamplingItem}
    (h : k.FailsFirst pid w items culprit failure) : ¬ ∀ item ∈ items, k.Passes pid w item := by
  intro hpasses
  induction h with
  | here h => exact h.not_passes (hpasses _ List.mem_cons_self)
  | there _ _ ih => exact ih fun item hitem => hpasses item (List.mem_cons_of_mem _ hitem)

/-- There is one first failure. -/
theorem FailsFirst.unique {culprit culprit' : SamplingItem}
    (h : k.FailsFirst pid w items culprit failure)
    (h' : k.FailsFirst pid w items culprit' failure') : failure = failure' := by
  induction h with
  | here h =>
    cases h' with
    | here h' => exact h.unique h'
    | there hpasses => exact absurd hpasses h.not_passes
  | there hpasses _ ih =>
    cases h' with
    | here h' => exact absurd hpasses h'.not_passes
    | there _ h' => exact ih h'

/-- The item that fails first fails. -/
theorem FailsFirst.failsWith {culprit : SamplingItem}
    (h : k.FailsFirst pid w items culprit failure) : k.FailsWith pid w culprit failure := by
  induction h with
  | here h => exact h
  | there _ _ ih => exact ih

/-- Further items behind do not change which one fails first. -/
theorem FailsFirst.append {culprit : SamplingItem}
    (h : k.FailsFirst pid w items culprit failure) (more : List SamplingItem) :
    k.FailsFirst pid w (items ++ more) culprit failure := by
  induction h with
  | here h => exact .here h
  | there hpasses _ ih => exact .there hpasses ih

/-- Nor do items in front that pass. -/
theorem FailsFirst.append_left {culprit : SamplingItem}
    (h : k.FailsFirst pid w more culprit failure) (hitems : ∀ item ∈ items, k.Passes pid w item) :
    k.FailsFirst pid w (items ++ more) culprit failure := by
  induction items with
  | nil => exact h
  | cons item rest ih =>
    obtain ⟨hitem, hrest⟩ := List.forall_mem_cons.mp hitems
    exact .there hitem (ih hrest)

/-- A failure means that the process is gone exactly if the file that tells it is. -/
theorem FailsWith.eq_notFound_iff (h : k.FailsWith pid w item failure) (gone : Nat) :
    failure = .notFound gone ↔
      gone = pid ∧ ∃ file, k.vitalFile? pid item = some file ∧ w.files.Gone file := by
  cases h with
  | stateGone hgone => simp [vitalFile?, hgone, eq_comm]
  | stateUnreadable hthere => simp [vitalFile?, hthere]
  | stateMalformed htext h =>
    have hthere : ¬ w.files.Gone (Procfs.file k.rootfs pid "stat") := by
      intro hgone
      obtain ⟨f, hf⟩ := exists_readText_of_gone hgone
      simp [hf] at htext
    simp [vitalFile?, hthere]
  | pagesGone hgone => simp [vitalFile?, hgone, eq_comm]
  | pagesUnreadable hthere => simp [vitalFile?, hthere]
  | ownerMalformed => simp [vitalFile?]
  | ioMalformed => simp [vitalFile?]
  | networkMalformed => simp [vitalFile?]
  | cgroupGone hcgroups hgone => simp [vitalFile?, hcgroups, hgone, eq_comm]
  | cgroupFailed hcgroups hthere => simp [vitalFile?, hcgroups, hthere]

section EndsBy

variable {α β : Type} {x : Probe ProcessFailure α} {f : α → Probe ProcessFailure β}

/-- A probe that has a value without reading any item. -/
theorem EndsBy.of_ok {result : Except (Fault ProcessFailure) α} {a : α} (h : result = .ok a) :
    k.EndsBy pid w [] result where
  passes _ _ := by simp
  fails failure hfailure := by simp [h] at hfailure

/-- One item decides how a probe ends. -/
theorem EndsBy.of_item {result : Except (Fault ProcessFailure) α}
    (hpasses : ∀ a, result = .ok a → k.Passes pid w item)
    (hfails : ∀ failure, result = .error (.failed failure) → k.FailsWith pid w item failure) :
    k.EndsBy pid w [item] result where
  passes a ha := by simpa using hpasses a ha
  fails failure h := ⟨item, .here (hfails failure h)⟩

/-- A sequence reads the items of its second part behind those of its first one. -/
theorem EndsBy.bind (hx : k.EndsBy pid w items (x.outcome w))
    (hf : ∀ a, x.outcome w = .ok a → k.EndsBy pid w more ((f a).outcome w)) :
    k.EndsBy pid w (items ++ more) ((x >>= f).outcome w) where
  passes b hb := by
    obtain ⟨a, ha, hb⟩ := Probe.outcome_bind_eq_ok.mp hb
    exact List.forall_mem_append.mpr ⟨hx.passes a ha, (hf a ha).passes b hb⟩
  fails failure h := by
    rcases Probe.outcome_bind_eq_error.mp h with h | ⟨a, ha, h⟩
    · obtain ⟨item, hitem⟩ := hx.fails failure h
      exact ⟨item, hitem.append more⟩
    · obtain ⟨item, hitem⟩ := (hf a ha).fails failure h
      exact ⟨item, hitem.append_left (hx.passes a ha)⟩

/-- What a sequence does behind its first part needs no items if it always has a value. -/
theorem EndsBy.bind_ok (hx : k.EndsBy pid w items (x.outcome w))
    (hf : ∀ a, x.outcome w = .ok a → ∃ b, (f a).outcome w = .ok b) :
    k.EndsBy pid w items ((x >>= f).outcome w) := by
  have hbind : k.EndsBy pid w (items ++ []) ((x >>= f).outcome w) := by
    refine hx.bind fun a ha => ?_
    obtain ⟨b, hb⟩ := hf a ha
    exact .of_ok hb
  rwa [List.append_nil] at hbind

/-- Without an overflow the items decide which of both it is. -/
theorem EndsBy.iff {result : Except (Fault ProcessFailure) α} (h : k.EndsBy pid w items result)
    (hfits : result ≠ .error .overflow) :
    ((∃ a, result = .ok a) ↔ ∀ item ∈ items, k.Passes pid w item) ∧
      ∀ failure, result = .error (.failed failure) ↔
        ∃ item, k.FailsFirst pid w items item failure := by
  rcases hresult : result with (failure | _) | a
  · obtain ⟨item, hitem⟩ := h.fails failure hresult
    refine ⟨iff_of_false (by simp) hitem.not_passes, fun failure' => ?_⟩
    simp only [Except.error.injEq, Fault.failed.injEq]
    refine ⟨fun heq => ⟨item, heq ▸ hitem⟩, ?_⟩
    rintro ⟨item', hitem'⟩
    exact hitem.unique hitem'
  · exact absurd hresult hfits
  · have hpasses := h.passes a hresult
    refine ⟨iff_of_true ⟨a, rfl⟩ hpasses, fun failure => ?_⟩
    refine iff_of_false (by simp) ?_
    rintro ⟨item, hitem⟩
    exact hitem.not_passes hpasses

end EndsBy

/-- A vital file that cannot be read is gone, and then the process is gone, or it is there. -/
private theorem ofFile_cases {cause : PathFailure} {path : Path}
    (hcause : cause.isGone = true ↔ w.files.Gone path) :
    w.files.Gone path ∧ ProcessFailure.ofFile pid cause = .notFound pid ∨
      ¬ w.files.Gone path ∧ ProcessFailure.ofFile pid cause = .unreadable cause := by
  by_cases hgone : w.files.Gone path
  · exact Or.inl ⟨hgone, if_pos (hcause.mpr hgone)⟩
  · exact Or.inr ⟨hgone, if_neg fun h => hgone (hcause.mp h)⟩

/-- The state of a process is read as a whole. -/
private theorem record_endsBy :
    k.EndsBy pid w [.state] ((Procfs.record k.rootfs pid).outcome w) := by
  have hread := Stat.outcome_readText (Procfs.file k.rootfs pid "stat") w
  cases htext : w.files.readText (Procfs.file k.rootfs pid "stat") with
  | error f =>
    rw [htext] at hread
    have hrecord : (Procfs.record k.rootfs pid).outcome w = .error (.failed
        (.ofFile pid ⟨Procfs.file k.rootfs pid "stat", .file f⟩)) := by
      rw [Procfs.record, Probe.outcome_bind, Probe.outcome_mapFailure, hread]
      rfl
    refine .of_item (by simp [hrecord]) fun failure h => ?_
    obtain rfl : ProcessFailure.ofFile pid _ = failure := by simpa [hrecord] using h
    have hcause : PathFailure.isGone ⟨Procfs.file k.rootfs pid "stat", .file f⟩ = true ↔
        w.files.Gone (Procfs.file k.rootfs pid "stat") := FileTree.isGone_of_readText htext
    rcases ofFile_cases hcause with ⟨hgone, h⟩ | ⟨hthere, h⟩
    · exact h ▸ .stateGone hgone
    · exact h ▸ .stateUnreadable hthere htext
  | ok text =>
    rw [htext] at hread
    rw [Procfs.record, Probe.outcome_bind_of_ok (Probe.outcome_mapFailure_eq_ok.mpr hread)]
    cases hrecord : ProcessRecord.read text with
    | ok r => exact .of_item (fun _ _ => ⟨text, r, htext, hrecord⟩) (by simp)
    | error error =>
      refine .of_item (by simp) fun failure h => ?_
      obtain rfl : .malformed (Procfs.file k.rootfs pid "stat") error.message = failure := by
        simpa using h
      exact .stateMalformed htext hrecord

/-- The pages have to be there. -/
private theorem pages_endsBy :
    k.EndsBy pid w [.pages]
      (((Stat.read (Procfs.file k.rootfs pid "statm") (PageCounts.readLines k.units)).mapFailure
        (.ofFile pid)).outcome w) := by
  rw [Probe.outcome_mapFailure]
  rcases hread : (Stat.read (Procfs.file k.rootfs pid "statm")
    (PageCounts.readLines k.units)).outcome w with (⟨path, reason⟩ | _) | pages
  · obtain rfl : path = Procfs.file k.rootfs pid "statm" := Stat.path_of_readWith hread
    refine .of_item (by simp) fun failure h => ?_
    obtain rfl : ProcessFailure.ofFile pid _ = failure := by simpa using h
    rcases ofFile_cases (Stat.isGone_of_read (Scalar.readFirst_honest _) hread) with
      ⟨hgone, h⟩ | ⟨hthere, h⟩
    · exact h ▸ .pagesGone hgone
    · exact h ▸ .pagesUnreadable hthere hread
  · exact .of_item (by simp) (by simp)
  · exact .of_item (fun _ _ => ⟨pages, hread⟩) (by simp)

/-- A file that the process can do without fails the item only if it is malformed. -/
private theorem optional_endsBy {α : Type} {path : Path}
    {reader : Lines → Probe ReadFailure α}
    (hpresent : Procfs.isPresent w.files k.rootfs pid = true)
    (hpasses : Procfs.WellFormed (Stat.readWith path reader) w → k.Passes pid w item)
    (hfails : ∀ error, (Stat.readWith path reader).outcome w =
      .error (.failed ⟨path, .malformed error⟩) →
      k.FailsWith pid w item (.unreadable ⟨path, .malformed error⟩)) :
    k.EndsBy pid w [item]
      ((Procfs.optional k.rootfs pid (Stat.readWith path reader)).outcome w) := by
  rw [Procfs.outcome_optional_of_present hpresent]
  rcases hread : (Stat.readWith path reader).outcome w with (⟨path', reason⟩ | _) | a
  · obtain rfl : path' = path := Stat.path_of_readWith hread
    cases reason with
    | file f =>
      refine .of_item (fun _ _ => hpasses fun failure h => ?_) (by simp [PathFailure.isMalformed])
      obtain rfl : ⟨_, .file f⟩ = failure := by simpa using hread.symm.trans h
      rfl
    | malformed error =>
      refine .of_item (by simp [PathFailure.isMalformed]) fun failure h => ?_
      obtain rfl : .unreadable ⟨_, .malformed error⟩ = failure := by
        simpa [PathFailure.isMalformed] using h
      exact hfails error hread
  · exact .of_item (by simp) (by simp)
  · exact .of_item (fun _ _ => hpasses fun failure h => by simp [hread] at h) (by simp)

/-- A cgroup that cannot be read is a failure, unless it is a root cgroup that is left out. -/
private theorem outcome_cgroup_of_failed {accounting : Cgroup.Accounting} {cause : CgroupFailure}
    (hcgroups : k.cgroups = some accounting)
    (hread : (accounting.read pid).outcome w = .error (.failed cause))
    (hroot : ∀ owner path, cause ≠ .inRoot owner path) :
    (k.cgroup pid).outcome w = .error (.failed (.ofCgroup pid cause)) := by
  simp only [Sampler.cgroup, hcgroups]
  rw [Probe.outcome_attempt_bind, hread]
  dsimp only
  split
  · next h => simp at h
  · next owner path h => exact absurd (Except.error.inj h) (hroot owner path)
  · next h => rw [Except.error.inj h, Probe.outcome_fail]

/-- The cgroup has to be found, unless it is a root cgroup that is left out. -/
private theorem cgroup_endsBy : k.EndsBy pid w [.cgroup] ((k.cgroup pid).outcome w) := by
  cases hcgroups : k.cgroups with
  | none =>
    simp only [Sampler.cgroup, hcgroups]
    exact .of_item (fun _ _ => by simp [Passes, hcgroups]) (by simp)
  | some accounting =>
    have hpasses (h : (∃ placement, (accounting.locator.locate pid).outcome w = .ok placement) ∨
        ∃ owner path,
          (accounting.locator.locate pid).outcome w = .error (.failed (.inRoot owner path))) :
        k.Passes pid w .cgroup := by
      intro accounting' hcgroups'
      exact Option.some.inj (hcgroups.symm.trans hcgroups') ▸ h
    rcases hread : (accounting.read pid).outcome w with (cause | _) | reading
    · have hlocate := Cgroup.Accounting.outcome_read_eq_failed.mp hread
      by_cases hroot : ∃ owner path, cause = .inRoot owner path
      · obtain ⟨owner, path, rfl⟩ := hroot
        simp only [Sampler.cgroup, hcgroups]
        rw [Probe.outcome_attempt_bind, hread]
        exact .of_item (fun _ _ => hpasses (Or.inr ⟨owner, path, hlocate⟩)) (by simp)
      · have hcause : ∀ owner path, cause ≠ .inRoot owner path := fun owner path h =>
          hroot ⟨owner, path, h⟩
        rw [outcome_cgroup_of_failed hcgroups hread hcause]
        refine .of_item (by simp) fun failure h => ?_
        obtain rfl : ProcessFailure.ofCgroup pid cause = failure := by simpa using h
        have hmeaning := Cgroup.Locator.meansProcessGone_of_locate hlocate
        by_cases hgone : w.files.Gone (accounting.locator.membershipFile pid)
        · rw [ProcessFailure.ofCgroup, if_pos (hmeaning.mpr hgone)]
          exact .cgroupGone hcgroups hgone
        · rw [ProcessFailure.ofCgroup, if_neg (fun h => hgone (hmeaning.mp h))]
          exact .cgroupFailed hcgroups hgone hcause hlocate
    · simp only [Sampler.cgroup, hcgroups]
      rw [Probe.outcome_attempt_bind, hread]
      exact .of_item (by simp) (by simp)
    · obtain ⟨placement, hlocate, -⟩ := Cgroup.Accounting.shows_of_read hread
      simp only [Sampler.cgroup, hcgroups]
      rw [Probe.outcome_attempt_bind, hread]
      exact .of_item (fun _ _ => hpasses (Or.inl ⟨placement, hlocate⟩)) (by simp)

/-- Once the state is read, the counters of a process depend on the items up to the network. -/
private theorem metrics_endsBy {r : ProcessRecord} {known : ProcessIdentity}
    (hrecord : (Procfs.record k.rootfs pid).outcome w = .ok r)
    (hstart : r.startTime = known.startTime) :
    k.EndsBy pid w [.pages, .owner, .io, .network]
      ((Procfs.metrics k.units k.rootfs pid known k.network).outcome w) := by
  have hpresent := Procfs.isPresent_of_record hrecord
  have hsame : (r.startTime != known.startTime) = false := by simp [hstart]
  have howner : k.EndsBy pid w [.owner] ((Procfs.optional k.rootfs pid
      (Stat.read (Procfs.file k.rootfs pid "status") ProcessOwner.readLines)).outcome w) :=
    optional_endsBy hpresent id fun _ => .ownerMalformed
  have hio : k.EndsBy pid w [.io] ((Procfs.optional k.rootfs pid
      (Stat.read (Procfs.file k.rootfs pid "io") IoCounters.readLines)).outcome w) :=
    optional_endsBy hpresent id fun _ => .ioMalformed
  rw [Procfs.metrics, Probe.outcome_bind_of_ok hrecord, hsame, if_neg Bool.false_ne_true]
  refine pages_endsBy.bind fun pages _ => howner.bind fun owner _ => hio.bind fun io _ => ?_
  by_cases hasked : k.network = true
  · have hnetwork : k.EndsBy pid w [.network] ((Procfs.optional k.rootfs pid
        (Procfs.readNetwork (Procfs.file k.rootfs pid "net/dev"))).outcome w) :=
      optional_endsBy hpresent (fun h _ => h) fun _ => .networkMalformed hasked
    rw [if_pos hasked]
    exact hnetwork.bind_ok fun counters _ => ⟨_, rfl⟩
  · rw [if_neg hasked]
    exact .of_item (fun _ _ h => absurd h hasked) (by simp)

/-- Observing a process whose identity has been read reads the other items in order. -/
private theorem observe_endsBy {identity : ProcessIdentity} {previous : Option ProcessSample}
    {capacity : HostCapacity}
    (hidentity : (Procfs.identity k.rootfs pid).outcome w = .ok identity) :
    k.EndsBy pid w [.pages, .owner, .io, .network, .cgroup]
      ((k.observe identity previous capacity).outcome w) := by
  obtain rfl := Procfs.identity_pid hidentity
  obtain ⟨r, hrecord, hr⟩ := Probe.outcome_bind_eq_ok.mp hidentity
  simp only [Probe.outcome_pure, Except.ok.injEq] at hr
  have hpresent := Procfs.isPresent_of_record hrecord
  have harguments := k.outcome_arguments hpresent previous
  have henvironment := k.outcome_environment hpresent previous
  have hmetrics : k.EndsBy identity.pid w [.pages, .owner, .io, .network]
      ((Sampler.ask .extended (k.table.metrics identity.pid identity k.network)).outcome w) := by
    rw [outcome_ask, k.table_eq, Procfs.table]
    exact metrics_endsBy hrecord (by rw [← hr])
  refine hmetrics.bind fun metrics _ => ?_
  rw [Probe.outcome_bind_of_ok harguments, Probe.outcome_bind_of_ok henvironment]
  exact cgroup_endsBy.bind_ok fun cgroup _ => ⟨_, rfl⟩

/-- Sampling a process whatever its name reads all items in order. -/
theorem answer_endsBy {history : History} :
    k.EndsBy pid w SamplingItem.inOrder (k.answer none pid w history) := by
  have hidentity : k.EndsBy pid w [.state] ((k.identity pid).outcome w) := by
    rw [outcome_identity]
    exact record_endsBy.bind_ok fun r _ => ⟨_, rfl⟩
  rw [answer_eq]
  refine hidentity.bind fun identity h => ?_
  rw [outcome_identity] at h
  exact (observe_endsBy h).bind_ok fun sample _ => ⟨_, rfl⟩

/-- Sampling one process ends by the six items in their order. -/
private theorem sampleProcess_endsBy {history : History} :
    k.EndsBy pid w SamplingItem.inOrder ((k.sampleProcess pid).run w history).1 := by
  have hanswer : k.EndsBy pid w SamplingItem.inOrder (k.answer none pid w history) := answer_endsBy
  rcases k.sampleProcess_cases w history pid with ⟨s, hs, hrun⟩ | ⟨fault, hfault, hrun⟩
  · rw [hrun]
    exact ⟨fun _ _ => hanswer.passes _ hs, by simp⟩
  · rw [hrun]
    refine ⟨by simp, fun failure h => hanswer.fails failure ?_⟩
    rw [hfault, Except.error.inj h]

/-- Unless a counter overflows, a process is sampled exactly if all items pass, and it fails exactly
as the first item does that fails. The failure means that the process is gone exactly if the file
that tells it for this item is gone. -/
theorem sampleProcess_firstFailure {history : History}
    (hfits : ((k.sampleProcess pid).run w history).1 ≠ .error .overflow) :
    ((∃ sample, ((k.sampleProcess pid).run w history).1 = .ok sample) ↔
      ∀ item, k.Passes pid w item) ∧
    (∀ failure, ((k.sampleProcess pid).run w history).1 = .error (.failed failure) ↔
      ∃ item, k.FailsFirst pid w SamplingItem.inOrder item failure) ∧
    ∀ item failure, k.FailsFirst pid w SamplingItem.inOrder item failure →
      ∀ gone, failure = .notFound gone ↔
        gone = pid ∧ ∃ file, k.vitalFile? pid item = some file ∧ w.files.Gone file := by
  obtain ⟨hok, hfailed⟩ := sampleProcess_endsBy.iff hfits
  refine ⟨hok.trans ?_, hfailed, fun item failure h => h.failsWith.eq_notFound_iff⟩
  exact ⟨fun h item => h item item.mem_inOrder, fun h item _ => h item⟩

/-- A process without an owner file, whose input and output and network counters are nonsense. -/
private def nonsense : World := ⟨kernelTree (processFiles 7 10 ++ [
  processFile 7 ["io".toList] "rchar: many\n".toList,
  processFile 7 ["net".toList, "dev".toList] "\n\nnothing\n".toList]), ⟨0⟩⟩

/-- The missing owner is no failure, and of the other two files the one that is read first is. -/
theorem sampleProcess_firstFailure_nonsense :
    (((plain ['/'] true).sampleProcess 7).run nonsense .empty).1 =
      .error (.failed (.unreadable ⟨"/proc/7/io".toList,
        .malformed (.invalidKeyValue "rchar:".toList "many".toList 1 .invalidDigit)⟩)) := by
  have hfits : (((plain ['/'] true).sampleProcess 7).run nonsense .empty).1 ≠
      .error .overflow := by
    have hanswer : ¬ (plain ['/'] true).Overflows none nonsense .empty 7 := by decide +kernel
    rcases (plain ['/'] true).sampleProcess_cases nonsense .empty 7 with
      ⟨s, -, hrun⟩ | ⟨fault, hfault, hrun⟩
    · simp [hrun]
    · rw [hrun]
      exact fun h => hanswer (hfault.trans (by rw [Except.error.inj h]))
  have hstate : (plain ['/'] true).Passes 7 nonsense .state :=
    ⟨"7 (worker) S 0 1 1 0 -1 0 0 0 0 0 10 0 0 0 20 0 1 0 100 0 0\n".toList, _,
      by decide +kernel, rfl⟩
  have hpages : (plain ['/'] true).Passes 7 nonsense .pages := by
    refine ⟨⟨40960, 20480, 4096⟩, ?_⟩
    show (Stat.read (Procfs.file ['/'] 7 "statm")
      (PageCounts.readLines .usual)).outcome nonsense = _
    decide +kernel
  have howner : (plain ['/'] true).Passes 7 nonsense .owner := by
    have hmissing : (Stat.read (Procfs.file ['/'] 7 "status") ProcessOwner.readLines).outcome
        nonsense = .error (.failed ⟨Procfs.file ['/'] 7 "status", .file .notFound⟩) := by
      decide +kernel
    intro failure h
    obtain rfl : ⟨_, .file .notFound⟩ = failure := by simpa using hmissing.symm.trans h
    rfl
  have hio : (Stat.read (Procfs.file ['/'] 7 "io") IoCounters.readLines).outcome nonsense =
      .error (.failed ⟨Procfs.file ['/'] 7 "io",
        .malformed (.invalidKeyValue "rchar:".toList "many".toList 1 .invalidDigit)⟩) := by
    decide +kernel
  refine ((sampleProcess_firstFailure hfits).2.1 _).mpr ⟨.io, ?_⟩
  exact .there hstate (.there hpages (.there howner (.here (.ioMalformed hio))))

end KernelSampler

end ProcessMeter
