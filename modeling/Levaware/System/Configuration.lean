import Levaware.System.Start

set_option autoImplicit false

/-! # The configuration in the firmware

To the configuration a run of the firmware is a run of messages and reboots: `Turn.OnConfig` says
what it sees of a turn, `firmware_refines_config` that it sees nothing else. On hardware that works,
with the files in place, the firmware always goes on, and no message can make it lose a number, a
string or its serial number (`firmware_leadsOn`). -/

namespace Levaware

open Abort

variable {hw : Hardware} {fw fw' : Firmware} {turn : Turn} {b : Board}

/-- The shadow data that comes in a turn. -/
def Turn.shadowMsg? : Turn → Option (List UInt8)
  | .callback evtp => evtp.shadowData?
  | _ => none

/-- What the configuration sees of a turn: the message it brings, else a reboot at most. -/
def Turn.OnConfig (turn : Turn) (ops : List ConfigOp) : Prop :=
  match turn.shadowMsg? with
  | some msg => ops = [.shadowMsg msg]
  | none => ops = [] ∨ ops = [.reboot]

theorem Turn.onConfig_msg {msg : List UInt8} (h : turn.shadowMsg? = some msg) :
    turn.OnConfig [.shadowMsg msg] := by
  rw [Turn.OnConfig, h]

theorem Turn.onConfig_none (h : turn.shadowMsg? = none) {ops : List ConfigOp}
    (hops : ops = [] ∨ ops = [.reboot]) : turn.OnConfig ops := by
  rw [Turn.OnConfig, h]
  exact hops

/-! ## What a turn does to the device -/

theorem Goes.device (h : Goes hw fw turn fw') :
    (turn.shadowMsg? = none ∧ fw'.device = fw.device) ∨
    ∃ msg, turn.shadowMsg? = some msg ∧
      (awsDecodeShadowMsg hw.platform msg).run fw.device = .ok () fw'.device := by
  cases h with
  | lte | sms | tick | queuedDecoded | clientStarted | handled => exact Or.inl ⟨rfl, rfl⟩
  | queued hdata | ignored hdata => exact Or.inl ⟨hdata, rfl⟩
  | decoded hdata hrun => exact Or.inr ⟨_, hdata, hrun⟩

theorem Stops.device {reason : String} (h : Stops hw fw turn reason fw') :
    (turn.shadowMsg? = none ∧ fw'.device = fw.device) ∨
    ∃ msg, turn.shadowMsg? = some msg ∧
      (awsDecodeShadowMsg hw.platform msg).run fw.device = .error reason fw'.device := by
  cases h with
  | lte | timer | queueFullDecoded | clientFails | powerLoss => exact Or.inl ⟨rfl, rfl⟩
  | queueFull hdata => exact Or.inl ⟨hdata, rfl⟩
  | decoding hdata hrun => exact Or.inr ⟨_, hdata, hrun⟩

/-! ## Refinement -/

/-- A start of the firmware is a boot of the configuration. -/
theorem boot_bootFrom (hfit : ∀ id, id ≠ .iccid → b.flash.StringFits id)
    (h : boot hw b = some fw) : ∃ d, bootFrom hw.platform b = some d ∧ d.SameStore fw.device := by
  have hstarted := boot_started h
  obtain ⟨b', hconfig, hboard⟩ := hstarted.config
  obtain ⟨d, hboot, hout, hsame⟩ := configInit_bootFrom hfit hconfig
  have hstore : fw.board.SameStore b' := by
    rw [hboard]
    exact ⟨rfl, rfl⟩
  exact ⟨d, hboot, ⟨hsame.attr.trans hstore.attr.symm, hsame.flash.trans hstore.flash.symm⟩,
    hout.trans hstarted.outstanding.symm⟩

/-- The configuration that belongs to a state of the firmware. -/
structure Mirrors (d : Device) (fw : Firmware) : Prop where
  same : d.SameStore fw.device
  safe : d.board.StringsSafe

theorem boot_mirrors (hfit : ∀ id, id ≠ .iccid → b.flash.StringFits id)
    (h : boot hw b = some fw) : ∃ d, bootFrom hw.platform b = some d ∧ Mirrors d fw := by
  obtain ⟨d, hboot, hsame⟩ := boot_bootFrom hfit h
  exact ⟨d, hboot, hsame, bootFrom_safe hfit hboot⟩

/-- Two reboots from the same files. -/
theorem mirrors_reboot {b' : Board} (hfit : ∀ id, id ≠ .iccid → b.flash.StringFits id)
    (hflash : b.flash = b'.flash) (h : boot hw b' = some fw) :
    ∃ d, bootFrom hw.platform b = some d ∧ Mirrors d fw := by
  have hfit' : ∀ id, id ≠ .iccid → b'.flash.StringFits id := hflash ▸ hfit
  obtain ⟨d', hboot', hsame'⟩ := boot_bootFrom hfit' h
  obtain ⟨d, hboot, hsame⟩ := bootFrom_sameStore hflash.symm hboot'
  exact ⟨d, hboot, hsame.symm.trans hsame', bootFrom_safe hfit hboot⟩

theorem configRun_singleton (P : Platform) (d : Device) (op : ConfigOp) :
    configRun P d [op] = configStep P d op := by
  unfold configRun
  rw [List.foldlM_cons]
  cases configStep P d op <;> rfl

/-- One turn. -/
theorem Mirrors.step {d : Device} (hd : Mirrors d fw)
    (hstep : (firmware hw).step fw turn = some fw') :
    ∃ ops d', turn.OnConfig ops ∧ configRun hw.platform d ops = some d' ∧ Mirrors d' fw' := by
  obtain ⟨-, hgoes | ⟨reason, fw₁, hstops, hboot⟩⟩ := firmware_step_cases hstep
  · rcases hgoes.device with ⟨hnone, hdevice⟩ | ⟨msg, hmsg, hrun⟩
    · exact ⟨[], d, Turn.onConfig_none hnone (Or.inl rfl), rfl, hdevice ▸ hd.same, hd.safe⟩
    · refine ⟨[.shadowMsg msg], ?_⟩
      rw [configRun_singleton]
      unfold configStep
      rcases (ConfigOp.shadowMsg msg).run_alike (P := hw.platform) d fw.device hd.same with
        ⟨_, c, c', hc, hc', hsame⟩ | ⟨e, c, c', -, hc', -⟩
      · have heq := hrun.symm.trans hc'
        cases heq
        rw [hc]
        exact ⟨c, Turn.onConfig_msg hmsg, rfl, hsame, ConfigOp.run_safe _ |>.ok hd.safe hc⟩
      · have heq := hrun.symm.trans hc'
        cases heq
  · rcases hstops.device with ⟨hnone, hdevice⟩ | ⟨msg, hmsg, hrun⟩
    · have hflash : d.board.flash = fw₁.board.flash := by
        rw [hd.same.board.flash, Firmware.board, hdevice]
      obtain ⟨d', hd', hmirrors⟩ := mirrors_reboot hd.safe.fits hflash hboot
      refine ⟨[.reboot], d', Turn.onConfig_none hnone (Or.inr rfl), ?_, hmirrors⟩
      rw [configRun_singleton, configStep_reboot, hd']
    · refine ⟨[.shadowMsg msg], ?_⟩
      rw [configRun_singleton]
      unfold configStep
      rcases (ConfigOp.shadowMsg msg).run_alike (P := hw.platform) d fw.device hd.same with
        ⟨_, c, c', -, hc', -⟩ | ⟨e, c, c', hc, hc', hflash⟩
      · have heq := hrun.symm.trans hc'
        cases heq
      · have heq := hrun.symm.trans hc'
        cases heq
        rw [hc]
        obtain ⟨d', hd', hmirrors⟩ :=
          mirrors_reboot ((ConfigOp.run_safe _).error hd.safe hc) hflash hboot
        exact ⟨d', Turn.onConfig_msg hmsg, hd', hmirrors⟩

/-- Whatever the hardware and the libraries answer and in whatever order the turns come, as long as
    the string files fit their fields: the store of the firmware is where the configuration is after
    the messages of the turns, each once and in their order, with reboots between them and nothing
    else. -/
theorem firmware_refines_config (hw : Hardware) (b : Board)
    (hfit : ∀ id, id ≠ .iccid → b.flash.StringFits id) (fw₀ fw : Firmware) (turns : List Turn)
    (hboot : boot hw b = some fw₀) (hrun : (firmware hw).run fw₀ turns = some fw) :
    ∃ d₀ d opss, bootFrom hw.platform b = some d₀ ∧ List.Forall₂ Turn.OnConfig turns opss ∧
      configRun hw.platform d₀ opss.flatten = some d ∧ d.SameStore fw.device := by
  obtain ⟨d₀, hd₀, hmirrors⟩ := boot_mirrors hfit hboot
  obtain ⟨opss, d, hopss, hd, hmirrors'⟩ := Simulation.foldlM_simulates
    (R := fun fw d => Mirrors d fw) (fun _ _ _ _ hR hstep => hR.step hstep) hmirrors hrun
  exact ⟨d₀, d, opss, hd₀, hopss, hd, hmirrors'.same⟩

theorem firmware_refines_config_bench :
    ∃ fw₀ fw, boot .bench .bench = some fw₀ ∧ (firmware .bench).run fw₀ benchDay = some fw ∧
      ∃ d₀ d opss, bootFrom Hardware.bench.platform .bench = some d₀ ∧
        List.Forall₂ Turn.OnConfig benchDay opss ∧
        configRun Hardware.bench.platform d₀ opss.flatten = some d ∧ d.SameStore fw.device := by
  obtain ⟨fw₀, fw, hboot, hrun⟩ := bench_runs
  exact ⟨fw₀, fw, hboot, hrun, firmware_refines_config .bench .bench
    bench_complete.attributes.provisioned.fits fw₀ fw benchDay hboot hrun⟩

/-! ## String files -/

theorem Board.StringsSafe.of_sameStore {b' : Board} (h : b.StringsSafe) (hsame : b.SameStore b') :
    b'.StringsSafe :=
  ⟨h.table.of_attr_eq hsame.attr.symm, hsame.attr ▸ h.clean, hsame.flash ▸ h.fits⟩

theorem Goes.stringsSafe (h : Goes hw fw turn fw') (hfw : fw.board.StringsSafe) :
    fw'.board.StringsSafe := by
  rcases h.device with ⟨-, hdevice⟩ | ⟨msg, -, hrun⟩
  · rw [Firmware.board, hdevice]
    exact hfw
  · exact (ConfigOp.run_safe (.shadowMsg msg)).ok (s := fw.device) hfw hrun

theorem Stops.stringFiles {reason : String} (h : Stops hw fw turn reason fw')
    (hfw : fw.board.StringsSafe) : ∀ id, id ≠ .iccid → fw'.board.flash.StringFits id := by
  rcases h.device with ⟨-, hdevice⟩ | ⟨msg, -, hrun⟩
  · rw [Firmware.board, hdevice]
    exact hfw.fits
  · exact (ConfigOp.run_safe (.shadowMsg msg)).error (s := fw.device) hfw hrun

theorem boot_stringsSafe (hfit : ∀ id, id ≠ .iccid → b.flash.StringFits id)
    (h : boot hw b = some fw) : fw.board.StringsSafe := by
  obtain ⟨d, hboot, hsame⟩ := boot_bootFrom hfit h
  exact (bootFrom_safe hfit hboot).of_sameStore hsame.board

/-- String files that fit at the start fit in every run. -/
theorem firmware_stringsSafe (hw : Hardware) :
    (firmware hw).Keeps (fun fw => fw.board.StringsSafe)
      (fun fw => ∀ id, id ≠ .iccid → fw.board.flash.StringFits id) :=
  firmware_keeps (fun _ _ _ hfw _ hgoes => hgoes.stringsSafe hfw)
    (fun _ _ _ _ hfw _ hstops => hstops.stringFiles hfw) fun _ _ => boot_stringsSafe

/-! ## The firmware goes on -/

theorem FlashKept.refl (S : DevConfigShadowId → Prop) (b : Board) : FlashKept S b b :=
  fun _ _ => rfl

theorem FlashKept.trans {S : DevConfigShadowId → Prop} {b₀ b' : Board} (h : FlashKept S b₀ b)
    (h' : FlashKept S b b') : FlashKept S b₀ b' :=
  fun name hname => (h' name hname).trans (h name hname)

theorem Board.Durable.of_sameStore {b' : Board} (h : b.Durable) (hsame : b.SameStore b') :
    b'.Durable := by
  refine ⟨⟨h.store.table.of_attr_eq hsame.attr.symm, ?_, hsame.flash ▸ h.store.files⟩, ?_, ?_⟩
  · rw [← hsame.attr]
    exact h.store.terminated
  · rw [← hsame.attr]
    exact h.clean
  · rw [← hsame.attr, ← hsame.flash]
    exact h.number

/-- A message keeps RAM and files in step, and leaves the files in place when it aborts. -/
theorem awsDecodeShadowValues_durable {P : Platform} (hP : P.FsReliable)
    (attributes : Option CJson) (version : Int32) :
    Preserves Board.Durable (fun b => b.flash.FilesInPlace)
      (awsDecodeShadowValues P attributes version true) := by
  intro b hb
  cases htopic : requestedTopic attributes with
  | none =>
      obtain ⟨b', hrun, hconfig, hflash⟩ :=
        awsDecodeShadowValues_noTopic version hP hb.store.table htopic
      rw [hrun]
      exact (hb.serveAll _ beforeTopic_numeric _).of_eq hconfig hflash
  | some s =>
      obtain ⟨b', hrun, hflash⟩ := awsDecodeShadowValues_topic version hP hb.store.table htopic
      have hserved := hb.serveAll beforeTopic (by decide) (requested P attributes version)
      have hfiles : b'.flash.FilesInPlace := hflash ▸ hserved.store.files
      rw [hrun]
      exact hfiles

/-- What every turn keeps: RAM and files agree, and of the files of `b₀` only those of numbers have
    changed. -/
structure InOrder (b₀ b : Board) : Prop where
  durable : b.Durable
  kept : FlashKept Numeric b₀ b

/-- What a stop leaves of that: the files. -/
structure FilesInOrder (b₀ b : Board) : Prop where
  inPlace : b.flash.FilesInPlace
  kept : FlashKept Numeric b₀ b

theorem InOrder.files {b₀ : Board} (h : InOrder b₀ b) : FilesInOrder b₀ b :=
  ⟨h.durable.store.files, h.kept⟩

theorem FilesInOrder.complete {b₀ : Board} (h : FilesInOrder b₀ b) (hfl : b₀.flash.Complete) :
    b.flash.Complete := by
  refine ⟨?_, h.inPlace⟩
  rw [h.kept _ fun id _ => id.fileName_ne_serialNumber.symm]
  exact hfl.serialNumber

theorem awsDecodeShadowValues_inOrder {P : Platform} (hP : P.FsReliable) (b₀ : Board)
    (attributes : Option CJson) (version : Int32) :
    Preserves (InOrder b₀) (FilesInOrder b₀) (awsDecodeShadowValues P attributes version true) := by
  intro b hb
  have hdurable := awsDecodeShadowValues_durable hP attributes version b hb.durable
  have hkept := awsDecodeShadowValues_numeric (P := P) attributes version true b b
    (KeptOutside.refl hb.durable.store.table)
  cases hrun : (awsDecodeShadowValues P attributes version true).run b with
  | ok u b' =>
      rw [hrun] at hdurable hkept
      exact ⟨hdurable, hb.kept.trans hkept.flash⟩
  | error e b' =>
      rw [hrun] at hdurable hkept
      exact ⟨hdurable, hb.kept.trans hkept⟩

theorem shadowMsg_inOrder {P : Platform} (hP : P.FsReliable) (b₀ : Board) (msg : List UInt8) :
    Preserves (fun d => InOrder b₀ d.board) (fun d => FilesInOrder b₀ d.board)
      (awsDecodeShadowMsg P msg) :=
  awsDecodeShadowMsg_preserves (awsDecodeShadowValues_inOrder hP b₀) msg

theorem boot_inOrder {b₀ : Board} (hfl : FilesInOrder b₀ b) (h : boot hw b = some fw) :
    InOrder b₀ fw.board := by
  have hfit : ∀ id, id ≠ .iccid → b.flash.StringFits id := hfl.inPlace.provisioned.fits
  obtain ⟨d, hboot, hsame⟩ := boot_bootFrom hfit h
  have hbooted := bootFrom_booted (fun id hid _ => hfit id hid) hboot
  refine ⟨(hbooted.durable hfl.inPlace).of_sameStore hsame.board, hfl.kept.trans ?_⟩
  intro name _
  have hflash : d.board.flash = b.flash := hbooted.loadsTo.flash
  exact congrFun (hsame.board.flash.symm.trans hflash) name

theorem Goes.inOrder {b₀ : Board} (hP : hw.platform.FsReliable) (h : Goes hw fw turn fw')
    (hfw : InOrder b₀ fw.board) : InOrder b₀ fw'.board := by
  rcases h.device with ⟨-, hdevice⟩ | ⟨msg, -, hrun⟩
  · rw [Firmware.board, hdevice]
    exact hfw
  · exact (shadowMsg_inOrder hP b₀ msg).ok (s := fw.device) hfw hrun

theorem Stops.inOrder {b₀ : Board} {reason : String} (hP : hw.platform.FsReliable)
    (h : Stops hw fw turn reason fw') (hfw : InOrder b₀ fw.board) : FilesInOrder b₀ fw'.board := by
  rcases h.device with ⟨-, hdevice⟩ | ⟨msg, -, hrun⟩
  · rw [Firmware.board, hdevice]
    exact hfw.files
  · exact (shadowMsg_inOrder hP b₀ msg).error (s := fw.device) hfw hrun

/-- The invariant of all runs on files that can be relied on. -/
theorem firmware_inOrder (hP : hw.platform.FsReliable) (b₀ : Board) :
    (firmware hw).Keeps (fun fw => InOrder b₀ fw.board) (fun fw => FilesInOrder b₀ fw.board) :=
  firmware_keeps (fun _ _ _ hfw _ hgoes => hgoes.inOrder hP hfw)
    (fun _ _ _ _ hfw _ hstops => hstops.inOrder hP hfw) fun _ _ => boot_inOrder

/-- On hardware that works and with every file there the firmware starts, and goes on whatever turn
    comes next, whatever has come before: no message, no abort and no power loss leads to a device
    that does not start again. All along nothing waits to be saved, a reboot would load the numbers
    that RAM has, and no file has changed but those of numbers. -/
theorem firmware_leadsOn (hw : Hardware) (h : hw.Works) (b : Board) (hfl : b.flash.Complete) :
    ∃ fw₀, boot hw b = some fw₀ ∧
      ∀ turns fw, (firmware hw).run fw₀ turns = some fw →
        fw.board.Durable ∧ FlashKept Numeric b fw.board ∧
        ∀ turn, fw.possible turn = true → ∃ fw', (firmware hw).step fw turn = some fw' := by
  obtain ⟨fw₀, hboot⟩ := boot_total h hfl
  refine ⟨fw₀, hboot, fun turns fw hrun => ?_⟩
  have hkeeps := firmware_inOrder h.files b
  have hfw := hkeeps.run (boot_inOrder ⟨hfl.attributes, .refl _ _⟩ hboot) hrun
  refine ⟨hfw.durable, hfw.kept, fun turn hpossible => ?_⟩
  obtain ⟨fw', hstep, -⟩ := hkeeps.leadsOn
    (fun s hs => boot_total h (hs.complete hfl)) hfw hpossible
  exact ⟨fw', hstep⟩

theorem firmware_leadsOn_bench :
    ∃ fw₀, boot .bench .bench = some fw₀ ∧
      ∀ turns fw, (firmware .bench).run fw₀ turns = some fw →
        fw.board.Durable ∧ FlashKept Numeric .bench fw.board ∧
        ∀ turn, fw.possible turn = true → ∃ fw', (firmware .bench).step fw turn = some fw' :=
  firmware_leadsOn .bench bench_works .bench bench_complete

end Levaware
