import SecondDisplay.Tools.RollbackGate

/-!
# What a rollback runs (`tools/safety/Invoke-ReceiptRollback.ps1`)

Nothing is removed unless all checks passed, every command names a target of the receipt that is not
protected, packages are deleted behind all devices, and a report that passes means that all targets
were processed (`rollback_gated`).
-/

namespace SecondDisplay.Rollback

open PowerShell Safety Logged

variable {culture : Culture} {machine : Machine} {driver : Driver}

/-! ### Commands one after the other -/

/-- Commands that exited with 0. -/
def done (commands : List Command) : History := commands.map fun command => (command, some 0)

theorem allZero_append {first second : History} :
    allZero (first ++ second) = (allZero first && allZero second) := List.all_append

theorem allZero_done (commands : List Command) : allZero (done commands) = true := by
  rw [allZero, List.all_eq_true]
  intro entry hentry
  obtain ⟨command, -, rfl⟩ := List.mem_map.1 hentry
  rfl

theorem allZero_failed {command : Command} {exitCode : Option Int} (h : exitCode ≠ some 0) :
    allZero [(command, exitCode)] = false := by
  rw [allZero, List.all_cons, List.all_nil, Bool.and_true]
  exact beq_eq_false_iff_ne.2 h

/-- What a loop did that stopped: the commands up to one that did not exit with 0. -/
def Broken (commands : List Command) (ran : History) : Prop :=
  ∃ before command after exitCode, commands = before ++ command :: after ∧ exitCode ≠ some 0 ∧
    ran = done before ++ [(command, exitCode)]

theorem Broken.allZero {commands : List Command} {ran : History} (h : Broken commands ran) :
    allZero ran = false := by
  obtain ⟨before, command, after, exitCode, -, hcode, rfl⟩ := h
  rw [allZero_append, allZero_failed hcode, Bool.and_false]

theorem Broken.mem {commands : List Command} {ran : History} (h : Broken commands ran)
    {entry : Command × Option Int} (hentry : entry ∈ ran) : entry.1 ∈ commands := by
  obtain ⟨before, command, after, exitCode, rfl, -, rfl⟩ := h
  rw [done, List.mem_append, List.mem_map, List.mem_singleton] at hentry
  rw [List.mem_append]
  obtain ⟨command', hmem, rfl⟩ | rfl := hentry
  · exact .inl hmem
  · exact .inr List.mem_cons_self

theorem Broken.ne_nil {commands : List Command} {ran : History} (h : Broken commands ran) :
    ran ≠ [] := by
  obtain ⟨before, command, after, exitCode, -, -, rfl⟩ := h
  simp

theorem mem_of_mem_done {commands : List Command} {entry : Command × Option Int}
    (h : entry ∈ done commands) : entry.1 ∈ commands := by
  obtain ⟨command, hmem, rfl⟩ := List.mem_map.1 h
  exact hmem

/-- **A loop of commands.** It runs all of them, each with exit code 0, or it stops behind the first
one that has another exit code or throws. -/
theorem invokeEach_cases (driver : Driver) (history : History) (commands : List Command) :
    invokeEach driver history commands = (history ++ done commands, false) ∨
      ∃ ran threw, invokeEach driver history commands = (history ++ ran, threw) ∧
        Broken commands ran := by
  induction commands generalizing history with
  | nil =>
    refine .inl ?_
    rw [invokeEach, done, List.map_nil, List.append_nil]
  | cons command commands ih =>
    rw [invokeEach]
    have hbroken : ∀ exitCode, exitCode ≠ some 0 →
        Broken (command :: commands) [(command, exitCode)] := fun exitCode hcode =>
      ⟨[], command, commands, exitCode, rfl, hcode, rfl⟩
    cases hanswer : driver.pnputil history command with
    | none => exact .inr ⟨[(command, none)], true, rfl, hbroken none nofun⟩
    | some exitCode =>
      by_cases hzero : exitCode = 0
      · subst hzero
        simp only [if_true]
        obtain h | ⟨ran, threw, h, hran⟩ := ih (history ++ [(command, some 0)])
        · refine .inl ?_
          rw [h, done, done, List.map_cons, List.append_assoc, List.singleton_append]
        · obtain ⟨before, other, after, code, rfl, hcode, rfl⟩ := hran
          refine .inr ⟨(command, some 0) :: (done before ++ [(other, code)]), threw, ?_, ?_⟩
          · rw [h, List.append_assoc, List.singleton_append]
          · exact ⟨command :: before, other, after, code, rfl, hcode, rfl⟩
      · simp only [if_neg hzero]
        refine .inr ⟨[(command, some exitCode)], false, rfl, hbroken _ ?_⟩
        rwa [Ne, Option.some.injEq]

/-! ### The execution of a plan -/

/-- None of the records uses one of the INFs. -/
def Unused (culture : Culture) (records : List SignedDriver) (infNames : List Text) : Prop :=
  ∀ infName ∈ infNames, ∀ record ∈ records, isRemainingConsumer culture infName record = false

theorem unusedChecks_all_iff {records : List SignedDriver} {infNames : List Text} :
    (unusedChecks culture records infNames).all Check.pass = true ↔
      Unused culture records infNames := by
  rw [unusedChecks, List.all_map, List.all_eq_true]
  refine forall₂_congr fun infName _ => ?_
  show (!records.any (isRemainingConsumer culture infName)) = true ↔ _
  rw [Bool.not_eq_true', List.any_eq_false]
  exact forall₂_congr fun record _ => by rw [Bool.not_eq_true]

/-- What the execution of a plan runs, and whether its report may pass. -/
inductive Executed (culture : Culture) (driver : Driver) (plan : Plan) : History → Bool → Prop
  | removal_failed {ran : History} (h : Broken plan.removals ran)
      (hran : (invokeEach driver [] plan.removals).1 = ran) : Executed culture driver plan ran false
  | unproved (hremoved : invokeEach driver [] plan.removals = (done plan.removals, false))
      (h : ∀ answer, driver.afterRemoval (done plan.removals) = some answer →
        ¬Unused culture answer.records plan.infNames) :
      Executed culture driver plan (done plan.removals) false
  | deletion_failed {answer : CimAnswer} {ran : History}
      (hremoved : invokeEach driver [] plan.removals = (done plan.removals, false))
      (hanswer : driver.afterRemoval (done plan.removals) = some answer)
      (hunused : Unused culture answer.records plan.infNames) (h : Broken plan.deletions ran) :
      Executed culture driver plan (done plan.removals ++ ran) false
  | complete {answer : CimAnswer} {pass : Bool}
      (hremoved : invokeEach driver [] plan.removals = (done plan.removals, false))
      (hanswer : driver.afterRemoval (done plan.removals) = some answer)
      (hunused : Unused culture answer.records plan.infNames) :
      Executed culture driver plan (done plan.removals ++ done plan.deletions) pass

theorem executed_execute (culture : Culture) (driver : Driver) {options : Options}
    (happly : options.apply = true) (plan : Plan) (checks : List Check) :
    Executed culture driver plan (execute culture driver options plan checks).ran
      (execute culture driver options plan checks).overallPass := by
  have hfinished : ∀ ran checks pass, allZero ran = false →
      (finished options ran checks pass).overallPass = false := by
    intro ran checks pass hzero
    rw [finished, happly, hzero, Bool.and_false, Bool.not_true, Bool.or_false, Bool.and_false]
  rw [execute]
  obtain hremoved | ⟨ran, threw, hremoved, hbroken⟩ := invokeEach_cases driver [] plan.removals
  · rw [List.nil_append] at hremoved
    simp only [hremoved, Bool.false_eq_true, if_false, allZero_done, if_true]
    cases hanswer : driver.afterRemoval (done plan.removals) with
    | none => exact .unproved hremoved (by rw [hanswer]; nofun)
    | some answer =>
      simp only []
      by_cases hunused : (unusedChecks culture answer.records plan.infNames).all Check.pass = true
      · rw [if_pos hunused]
        rw [unusedChecks_all_iff] at hunused
        obtain hdeleted | ⟨ran, threw, hdeleted, hbroken⟩ :=
          invokeEach_cases driver (done plan.removals) plan.deletions
        · rw [hdeleted]
          exact .complete hremoved hanswer hunused
        · rw [hdeleted]
          cases threw with
          | true => exact .deletion_failed hremoved hanswer hunused hbroken
          | false =>
            show Executed culture driver plan (done plan.removals ++ ran)
              (finished options _ _ _).overallPass
            rw [hfinished]
            · exact .deletion_failed hremoved hanswer hunused hbroken
            · rw [allZero_append, hbroken.allZero, Bool.and_false]
      · rw [if_neg hunused]
        rw [unusedChecks_all_iff] at hunused
        refine .unproved hremoved fun other hother => ?_
        rw [hanswer, Option.some.injEq] at hother
        rwa [← hother]
  · rw [List.nil_append] at hremoved
    rw [hremoved]
    have hfirst : (invokeEach driver [] plan.removals).1 = ran := congrArg Prod.fst hremoved
    cases threw with
    | true => exact .removal_failed hbroken hfirst
    | false =>
      simp only [Bool.false_eq_true, if_false, hbroken.allZero]
      show Executed culture driver plan ran (finished options ran _ _).overallPass
      rw [hfinished _ _ _ hbroken.allZero]
      exact .removal_failed hbroken hfirst

/-! ### The script -/

theorem invoke_of_passes {options : Options} {file : Option ReceiptFile} {plan : Plan}
    (happly : options.apply = true) (helevated : machine.elevated = true)
    (hpass : Passes (preflight culture machine options file) plan) :
    invokeReceiptRollback culture machine driver options file =
      execute culture driver options plan (preflight culture machine options file).log := by
  have hall : (preflight culture machine options file).log.all Check.pass = true :=
    List.all_eq_true.2 hpass.2
  rw [invokeReceiptRollback]
  simp only [hpass.1, happly, helevated, hall, Bool.not_true, Bool.and_false, Bool.not_false,
    Bool.and_true, if_true, Bool.false_eq_true, if_false]

theorem invoke_of_not_passes (driver : Driver) {options : Options} {file : Option ReceiptFile}
    (h : ¬(options.apply = true ∧ machine.elevated = true ∧
      ∃ plan, Passes (preflight culture machine options file) plan)) :
    (invokeReceiptRollback culture machine driver options file).ran = [] ∧ (options.apply = true →
      (invokeReceiptRollback culture machine driver options file).overallPass = false) := by
  rw [invokeReceiptRollback]
  cases hvalue : (preflight culture machine options file).value with
  | error fault => exact ⟨rfl, fun _ => rfl⟩
  | ok plan =>
    have hrefused : (options.apply && ((preflight culture machine options file).log.all
        Check.pass && !(options.apply && !machine.elevated))) = false := by
      rw [Bool.eq_false_iff]
      intro hgo
      simp only [Bool.and_eq_true, Bool.not_eq_true', Bool.and_eq_false_iff,
        Bool.not_eq_false'] at hgo
      obtain ⟨happly, hall, helevated⟩ := hgo
      rw [happly] at helevated
      exact h ⟨happly, helevated.resolve_left nofun, plan, hvalue, List.all_eq_true.1 hall⟩
    simp only [hrefused, Bool.false_eq_true, if_false]
    refine ⟨rfl, fun happly => ?_⟩
    rw [finished, happly]
    simp

theorem exists_checks_execute (culture : Culture) (driver : Driver) (options : Options)
    (plan : Plan) (checks : List Check) :
    ∃ later, (execute culture driver options plan checks).checks = checks ++ later := by
  have hnone : checks = checks ++ [] := (List.append_nil checks).symm
  rw [execute]
  obtain ⟨removed, threw⟩ := invokeEach driver [] plan.removals
  simp only []
  split
  · exact ⟨[], hnone⟩
  · split
    · split
      · exact ⟨[], hnone⟩
      · split
        · split
          · exact ⟨_, rfl⟩
          · exact ⟨_, rfl⟩
        · exact ⟨_, rfl⟩
    · exact ⟨[], hnone⟩

/-- All checks of the first part are in the report. -/
theorem exists_checks_eq (options : Options) (file : Option ReceiptFile) :
    ∃ later, (invokeReceiptRollback culture machine driver options file).checks =
      (preflight culture machine options file).log ++ later := by
  rw [invokeReceiptRollback]
  cases (preflight culture machine options file).value with
  | error fault => exact ⟨[], (List.append_nil _).symm⟩
  | ok plan =>
    simp only []
    have hrefusal : ∀ (refused : Bool) (log : List Check), ∃ refusal,
        (if refused = true then log ++ [⟨text "execution.elevated", false⟩] else log) =
          log ++ refusal := by
      intro refused log
      cases refused with
      | true => exact ⟨_, rfl⟩
      | false => exact ⟨[], (List.append_nil log).symm⟩
    obtain ⟨refusal, hchecks⟩ := hrefusal (options.apply && !machine.elevated)
      (preflight culture machine options file).log
    rw [hchecks]
    split
    · obtain ⟨later, hlater⟩ := exists_checks_execute culture driver options plan
        ((preflight culture machine options file).log ++ refusal)
      exact ⟨refusal ++ later, by rw [hlater, List.append_assoc]⟩
    · exact ⟨refusal, rfl⟩

/-- What stands before a rollback that runs a command or reports success. -/
structure Authorized (culture : Culture) (machine : Machine) (options : Options)
    (file : Option ReceiptFile) (receipt : Receipt) (plan : Plan) : Prop where
  elevated : machine.elevated = true
  value : (preflight culture machine options file).value = .ok plan
  all_pass : ∀ check ∈ (preflight culture machine options file).log, check.pass = true
  receipt_read : ∃ file', file = some file' ∧ file'.receipt = some receipt
  devices : receipt.devices.map (List.map DeviceTarget.instanceId) =
    some (plan.instanceIds.map some)
  packages : receipt.packages.map (List.map PackageTarget.publishedInfName) =
    some (plan.infNames.map some)
  /-- No target is, by `-eq` and so all the more by its text, the protected one. -/
  not_protected : ∃ baseline protectedId protectedInf, receipt.gameViewer = some baseline ∧
    baseline.instanceId = some protectedId ∧ baseline.driverInfPath = some protectedInf ∧
    (∀ instanceId ∈ plan.instanceIds, culture.eq instanceId protectedId = false) ∧
    ∀ infName ∈ plan.infNames, culture.eq infName protectedInf = false

/-- What a rollback runs of a plan. -/
structure Exact (plan : Plan) (ran : History) (overallPass : Bool) : Prop where
  commands : ∀ entry ∈ ran,
    (∃ instanceId ∈ plan.instanceIds, entry.1.arguments = [text "/remove-device", instanceId]) ∨
    ∃ infName ∈ plan.infNames, entry.1.arguments = [text "/delete-driver", infName]
  removals_first : ∀ before infName exitCode after,
    ran = before ++ (.deleteDriver infName, exitCode) :: after →
    ∃ deleted, before = done plan.removals ++ deleted ∧
      ∀ entry ∈ deleted ++ after, ∃ other, entry.1 = .deleteDriver other
  complete : overallPass = true → ran = done plan.removals ++ done plan.deletions

/-- What holds of the outcome of a script. -/
structure Gated (culture : Culture) (machine : Machine) (options : Options)
    (file : Option ReceiptFile) (outcome : Outcome) : Prop where
  dry_run : options.apply = false → outcome.ran = []
  logged : ∃ later, outcome.checks = (preflight culture machine options file).log ++ later
  applied : options.apply = true → outcome.ran ≠ [] ∨ outcome.overallPass = true →
    ∃ receipt plan, Authorized culture machine options file receipt plan ∧
      Exact plan outcome.ran outcome.overallPass

theorem authorized_of_passes {options : Options} {file : Option ReceiptFile} {plan : Plan}
    (helevated : machine.elevated = true)
    (hpass : Passes (preflight culture machine options file) plan) :
    ∃ receipt, Authorized culture machine options file receipt plan := by
  obtain ⟨file', receipt, devices, packages, baseline, protectedId, protectedInf, rfl, happroved⟩ :=
    passes_preflight_iff.1 hpass
  have hdevices : receipt.devices.map (List.map DeviceTarget.instanceId) =
      some (plan.instanceIds.map some) := by
    rw [happroved.devices_read, Option.map_some, happroved.planned.instances_read]
  have hpackages : receipt.packages.map (List.map PackageTarget.publishedInfName) =
      some (plan.infNames.map some) := by
    rw [happroved.packages_read, Option.map_some, happroved.planned.infs_read]
  refine ⟨receipt, helevated, hpass.1, hpass.2, ⟨file', rfl, happroved.receipt_read⟩, hdevices,
    hpackages, baseline, protectedId, protectedInf, happroved.baseline_read,
    happroved.baseline_instance, happroved.baseline_inf, ?_, ?_⟩
  · intro instanceId hmem
    have hread : some instanceId ∈ devices.map DeviceTarget.instanceId := by
      rw [happroved.planned.instances_read]
      exact List.mem_map_of_mem hmem
    obtain ⟨target, htarget, hinstance⟩ := List.mem_map.1 hread
    obtain ⟨instanceId', hardwareIds, inf, h⟩ :=
      passes_deviceChecks_iff.1 (happroved.devices_approved target htarget)
    obtain rfl : instanceId' = instanceId := Option.some.inj (h.instance_read.symm.trans hinstance)
    exact h.not_protected
  · intro infName hmem
    have hread : some infName ∈ packages.map PackageTarget.publishedInfName := by
      rw [happroved.planned.infs_read]
      exact List.mem_map_of_mem hmem
    obtain ⟨target, htarget, hname⟩ := List.mem_map.1 hread
    obtain ⟨infName', signer, h⟩ :=
      passes_packageChecks_iff.1 (happroved.packages_approved target htarget)
    obtain rfl : infName' = infName := Option.some.inj (h.name_read.symm.trans hname)
    exact h.not_protected

theorem arguments_of_mem {plan : Plan} {command : Command}
    (h : command ∈ plan.removals ∨ command ∈ plan.deletions) :
    (∃ instanceId ∈ plan.instanceIds, command.arguments = [text "/remove-device", instanceId]) ∨
      ∃ infName ∈ plan.infNames, command.arguments = [text "/delete-driver", infName] := by
  obtain h | h := h
  · obtain ⟨instanceId, hmem, rfl⟩ := List.mem_map.1 h
    exact .inl ⟨instanceId, hmem, rfl⟩
  · obtain ⟨infName, hmem, rfl⟩ := List.mem_map.1 h
    exact .inr ⟨infName, hmem, rfl⟩

theorem not_mem_removals {plan : Plan} {infName : Text} :
    Command.deleteDriver infName ∉ plan.removals := by
  intro h
  obtain ⟨instanceId, -, hno⟩ := List.mem_map.1 h
  cases hno

/-- What stands in front of a deletion begins with all removals. -/
theorem removals_before {plan : Plan} {tail before after : History} {infName : Text}
    {exitCode : Option Int} (htail : ∀ entry ∈ tail, entry.1 ∈ plan.deletions)
    (h : done plan.removals ++ tail = before ++ (.deleteDriver infName, exitCode) :: after) :
    ∃ deleted, before = done plan.removals ++ deleted ∧
      ∀ entry ∈ deleted ++ after, ∃ other, entry.1 = .deleteDriver other := by
  have hdelete : ∀ entry ∈ tail, ∃ other, entry.1 = .deleteDriver other := by
    intro entry hentry
    obtain ⟨other, -, hother⟩ := List.mem_map.1 (htail entry hentry)
    exact ⟨other, hother.symm⟩
  obtain ⟨deleted, rfl, rfl⟩ | ⟨removed, hremoved, hafter⟩ := List.append_eq_append_iff.1 h
  · refine ⟨deleted, rfl, fun entry hentry => hdelete entry ?_⟩
    rw [List.mem_append] at hentry
    rw [List.mem_append, List.mem_cons]
    exact hentry.imp_right .inr
  · cases removed with
    | nil =>
      rw [List.append_nil] at hremoved
      rw [List.nil_append] at hafter
      refine ⟨[], by rw [hremoved, List.append_nil], fun entry hentry => hdelete entry ?_⟩
      rw [← hafter]
      exact List.mem_cons_of_mem _ hentry
    | cons entry removed =>
      rw [List.cons_append, List.cons.injEq] at hafter
      obtain ⟨rfl, -⟩ := hafter
      have hmem : (Command.deleteDriver infName, exitCode) ∈ done plan.removals := by
        rw [hremoved]
        exact List.mem_append_right before List.mem_cons_self
      exact absurd (mem_of_mem_done hmem) not_mem_removals

theorem Executed.exact {plan : Plan} {ran : History} {pass : Bool}
    (h : Executed culture driver plan ran pass) : Exact plan ran pass := by
  -- what ran of a plan is what ran of its removals and, behind all of them, of its deletions
  have hremovals : ∀ {ran : History}, (∀ entry ∈ ran, entry.1 ∈ plan.removals) →
      Exact plan ran false := fun hmem => by
    refine ⟨fun entry hentry => arguments_of_mem (.inl (hmem entry hentry)), ?_, nofun⟩
    rintro before infName exitCode after rfl
    exact absurd (hmem _ (List.mem_append_right before List.mem_cons_self)) not_mem_removals
  have hdeletions : ∀ {tail : History} {pass : Bool}, (∀ entry ∈ tail, entry.1 ∈ plan.deletions) →
      (pass = true → tail = done plan.deletions) → Exact plan (done plan.removals ++ tail) pass :=
      fun hmem hpass => by
    refine ⟨fun entry hentry => arguments_of_mem ?_, fun before infName exitCode after hran =>
      removals_before hmem hran, fun h => by rw [hpass h]⟩
    exact (List.mem_append.1 hentry).imp mem_of_mem_done (hmem entry)
  cases h with
  | removal_failed h hran => exact hremovals fun entry hentry => h.mem hentry
  | unproved hremoved h => exact hremovals fun entry hentry => mem_of_mem_done hentry
  | deletion_failed hremoved hanswer hunused h =>
    exact hdeletions (fun entry hentry => h.mem hentry) nofun
  | complete hremoved hanswer hunused =>
    exact hdeletions (fun entry hentry => mem_of_mem_done hentry) fun _ => rfl

/-- **A rollback is gated and exact.** A dry run runs no command.  With `-Apply` a command runs, or
success is reported, only if all checks passed and the process is elevated; the commands name
targets of the receipt that are not protected, packages are deleted when all devices were removed,
and success means that every target was processed. -/
theorem rollback_gated (culture : Culture) (machine : Machine) (driver : Driver)
    (options : Options) (file : Option ReceiptFile) : Gated culture machine options file
      (invokeReceiptRollback culture machine driver options file) := by
  by_cases h : options.apply = true ∧ machine.elevated = true ∧
      ∃ plan, Passes (preflight culture machine options file) plan
  · obtain ⟨happly, helevated, plan, hpass⟩ := h
    refine ⟨fun hdry => ?_, exists_checks_eq options file, fun _ _ => ?_⟩
    · rw [happly] at hdry
      cases hdry
    · obtain ⟨receipt, hauthorized⟩ := authorized_of_passes helevated hpass
      rw [invoke_of_passes happly helevated hpass]
      exact ⟨receipt, plan, hauthorized, (executed_execute culture driver happly plan _).exact⟩
  · obtain ⟨hran, hfail⟩ := invoke_of_not_passes driver h
    refine ⟨fun _ => hran, exists_checks_eq options file, fun happly hdone => ?_⟩
    rw [hran, hfail happly] at hdone
    obtain hdone | hdone := hdone
    · exact absurd rfl hdone
    · cases hdone

end SecondDisplay.Rollback
