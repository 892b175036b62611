import ProcessMeter.Proofs.CommandLines
import ProcessMeter.Proofs.Printed
import ProcessMeter.Proofs.SharedHistory

/-!
# Environment blocks

The kernel shows the environment of a process as entries with an octet zero behind each. An entry
for a variable has an equals sign behind its name, and anything else is passed over. A choice of
names takes variables away and changes none: what is read with it is the part of what is read
without it.
-/

namespace ProcessMeter

namespace ProcessBlock

/-- The octets are no variable: there is no equals sign among them. Nor do they end an entry. -/
def IsForeign (octets : List UInt8) : Prop := 0 ∉ octets ∧ 0x3D ∉ octets

instance (octets : List UInt8) : Decidable (IsForeign octets) :=
  inferInstanceAs (Decidable (0 ∉ octets ∧ 0x3D ∉ octets))

/-- A block with an entry for each of the variables in order, and any octets that are no variable
between them and behind the last one. -/
inductive Lists : List UInt8 → List (Text × Text) → Prop where
  /-- What stands behind the last entry is no variable. -/
  | last {octets : List UInt8} (foreign : IsForeign octets) : Lists octets []
  /-- An entry may be no variable. -/
  | foreign {octets block : List UInt8} {pairs : List (Text × Text)}
    (foreign : IsForeign octets) (rest : Lists block pairs) :
    Lists (octets ++ 0 :: block) pairs
  /-- The name of a variable ends at the first equals sign of its entry. -/
  | named {name value : Text} {block : List UInt8} {pairs : List (Text × Text)}
    (name_equals : '=' ∉ name) (name_zero : '\x00' ∉ name) (value_zero : '\x00' ∉ value)
    (rest : Lists block pairs) :
    Lists (Text.encode (name ++ '=' :: value) ++ 0 :: block) ((name, value) :: pairs)

/-- An entry without an equals sign is no variable. -/
private theorem cut_of_isForeign {octets : List UInt8} (h : IsForeign octets) :
    Text.cut '=' (Text.decodeLossy octets) = none := by
  apply Text.cut_eq_none_iff.mpr
  intro hmem
  have hoctet : UInt8.ofNat '='.toNat ∈ octets := Text.mem_of_mem_decodeLossy (by decide) hmem
  exact h.2 hoctet

/-- Octets without a separator are one piece. -/
private theorem splitBytes_of_not_mem {separator : UInt8} {octets : List UInt8}
    (h : separator ∉ octets) : Text.splitBytes separator octets = [octets] := by
  induction octets with
  | nil => rfl
  | cons b rest ih =>
    obtain ⟨hb, hrest⟩ := not_or.mp (mt List.mem_cons.mpr h)
    rw [Text.splitBytes, if_neg (Ne.symm hb), ih hrest]

/-- The variables of a block are the listed ones in order. -/
private theorem Lists.variablesOf_eq {block : List UInt8} {pairs : List (Text × Text)}
    (h : Lists block pairs) : variablesOf block = pairs := by
  unfold variablesOf
  induction h with
  | last foreign =>
    have hcut := cut_of_isForeign foreign
    rw [splitBytes_of_not_mem foreign.1, List.filterMap_cons, hcut, List.filterMap_nil]
  | foreign foreign _ ih =>
    have hcut := cut_of_isForeign foreign
    rw [Text.splitBytes_append_cons foreign.1, List.filterMap_cons, hcut]
    exact ih
  | @named name value _ _ name_equals name_zero value_zero _ ih =>
    have hzero : '\x00' ∉ name ++ '=' :: value := by simp [name_zero, value_zero]
    have hpiece : 0 ∉ Text.encode (name ++ '=' :: value) := fun hmem =>
      hzero (Text.mem_of_mem_encode (by decide) hmem)
    have hcut := Text.cut_append_cons name_equals value
    rw [Text.splitBytes_append_cons hpiece, List.filterMap_cons, Text.decodeLossy_encode, hcut]
    exact congrArg ((name, value) :: ·) ih

/-- Without a choice the environment holds all variables of the block. -/
private theorem environment_eq_ofList (block : List UInt8) :
    environment block (fun _ => true) = .ofList (variablesOf block) := by
  apply TextMap.ext_get?
  intro name
  rw [get?_environment, TextMap.get?_ofList, if_pos rfl]

/-- A choice of names restricts the environment to them. -/
private theorem environment_eq_restrict (block : List UInt8) (keep : Text → Bool) :
    environment block keep = (environment block fun _ => true).restrict keep := by
  apply TextMap.ext_get?
  intro name
  rw [TextMap.get?_restrict, get?_environment, get?_environment, if_pos rfl]

/-- **Environment blocks.** Whatever the octets are, the variables whose names are kept are read as
they are without a choice, and no others. A block that lists variables with distinct names holds
exactly these. What is chosen of the environment of a process is read from its file in the same
way. -/
theorem environment_restricts (keep : Text → Bool) :
    (∀ block, environment block keep = (environment block fun _ => true).restrict keep ∧
      ∀ name, (environment block keep).get? name =
        if keep name then (environment block fun _ => true).get? name else none) ∧
    (∀ block pairs, Lists block pairs → TextMap.Distinct pairs →
      (environment block fun _ => true).entries.Perm pairs ∧
      (environment block keep).entries.Perm (pairs.filter fun pair => keep pair.1)) ∧
    ∀ (rootfs : Path) (pid : Nat) (names : NameFilter) (w : World) (block : List UInt8),
      w.files.readBytes (Procfs.file rootfs pid "environ") = .ok block →
      (Procfs.environment rootfs pid names).outcome w =
        .ok ((environment block fun _ => true).restrict names.passes) := by
  refine ⟨fun block => ⟨environment_eq_restrict block keep, fun name => ?_⟩, ?_, ?_⟩
  · rw [environment_eq_restrict, TextMap.get?_restrict]
  · intro block pairs hlists hdistinct
    have hall : (environment block fun _ => true).entries.Perm pairs := by
      rw [environment_eq_ofList, hlists.variablesOf_eq]
      exact TextMap.entries_ofList_perm hdistinct
    refine ⟨hall, ?_⟩
    rw [environment_eq_restrict]
    exact hall.filter _
  · intro rootfs pid names w block hfile
    have hblock : (Stat.readBytes (Procfs.file rootfs pid "environ")).outcome w = .ok block := by
      rw [Stat.readBytes, Probe.outcome_bind_of_ok (Probe.outcome_files w), hfile]
      rfl
    have hoptional : (Procfs.optional rootfs pid
        (Stat.readBytes (Procfs.file rootfs pid "environ"))).outcome w = .ok (some block) := by
      rw [Procfs.optional, Probe.outcome_attempt_bind, hblock]
      rfl
    rw [Procfs.environment, Probe.outcome_bind_of_ok hoptional, Option.getD_some,
      environment_eq_restrict]
    rfl

/-- Two variables, one of them empty and one with an equals sign in its value, between an octet
that starts no character and an entry without a name. -/
private def homeBlock : List UInt8 :=
  Text.encode "HOME=".toList ++ 0 :: ([0xFF] ++ 0 ::
    (Text.encode "JAVA_OPTS=-Dx=y".toList ++ 0 :: Text.encode "broken".toList))

/-- A process with these variables. -/
private def homeWorld : World :=
  ⟨KernelSampler.kernelTree [(["proc".toList, "7".toList, "environ".toList], .file homeBlock)], ⟨0⟩⟩

/-- Both variables are read, and only the one that is asked for if a choice is made. -/
theorem environment_restricts_mixed :
    let names : NameFilter := ⟨[Text.contains "JAVA".toList]⟩
    let home := ("HOME".toList, [])
    let options := ("JAVA_OPTS".toList, "-Dx=y".toList)
    Lists homeBlock [home, options] ∧ TextMap.Distinct [home, options] ∧
      (environment homeBlock fun _ => true).entries.Perm [home, options] ∧
      (environment homeBlock names.passes).entries.Perm [options] ∧
      homeWorld.files.readBytes (Procfs.file ['/'] 7 "environ") = .ok homeBlock ∧
      (Procfs.environment ['/'] 7 names).outcome homeWorld =
        .ok ((environment homeBlock fun _ => true).restrict names.passes) := by
  intro names home options
  have hlists : Lists homeBlock [home, options] := by
    have hbehind : IsForeign (Text.encode "broken".toList) := by decide
    have hbetween : IsForeign [0xFF] := by decide
    have hoptions := @Lists.named "JAVA_OPTS".toList "-Dx=y".toList _ _ (by decide) (by decide)
      (by decide) (.last hbehind)
    exact @Lists.named "HOME".toList [] _ _ (by decide) (by decide) (by decide)
      (.foreign hbetween hoptions)
  have hdistinct : TextMap.Distinct [home, options] := by decide
  have hfile : homeWorld.files.readBytes (Procfs.file ['/'] 7 "environ") = .ok homeBlock := by
    decide +kernel
  have hchosen : [home, options].filter (fun pair => names.passes pair.1) = [options] := by
    decide +kernel
  obtain ⟨-, hread, hprocess⟩ := environment_restricts names.passes
  obtain ⟨hall, hsome⟩ := hread homeBlock [home, options] hlists hdistinct
  rw [hchosen] at hsome
  exact ⟨hlists, hdistinct, hall, hsome, hfile, hprocess ['/'] 7 names homeWorld homeBlock hfile⟩

end ProcessBlock

end ProcessMeter
