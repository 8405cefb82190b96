import Levaware.Bsp.Modem
import Mathlib.Logic.Function.Basic

set_option autoImplicit false

/-! # The LEDs (`led.c`)

Three pins of three GPIO devices. `led_init` binds and configures them in turn; every failure
aborts. -/

namespace Levaware

/-- `led_t`, without the two codes that are no LED. -/
inductive Led where
  | blue | green | red
  deriving DecidableEq, Repr

/-- `led_state_t`, without the two codes that are no state. -/
inductive LedState where
  | off | on
  deriving DecidableEq, Repr

/-- What Zephyr answers for the pin of each LED. -/
structure LedLib where
  /-- `device_get_binding` finds the device -/
  bound : Led → Bool
  gpioPinConfigure : Led → Int
  gpioPinSet : Led → Int

/-- `led_dev`, and what the LEDs show. -/
structure Leds where
  ledDev : Led → Bool
  shows : Led → LedState

/-- Before `led_init`. -/
def Leds.unbound : Leds := ⟨fun _ => false, fun _ => .off⟩

abbrev LedM := EStateM String Leds

variable (L : LedLib)

/-- The block of one LED in `led_init`. -/
def ledInitOne (led : Led) (reason : String) : LedM Unit := do
  modify fun leds => { leds with ledDev := Function.update leds.ledDev led (L.bound led) }
  let err := if L.bound led then L.gpioPinConfigure led else -1
  if err ≠ 0 then erabort reason
  modify fun leds => { leds with shows := Function.update leds.shows led .off }

/-- `led_init`. -/
def ledInit : LedM Unit := do
  ledInitOne L .blue "ledinit: blue led init failed"
  ledInitOne L .green "ledinit: green led init failed"
  ledInitOne L .red "ledinit: red led init failed"

/-- `led_set_state`. -/
def ledSetState (led : Led) (state : LedState) : LedM Unit := do
  if L.gpioPinSet led ≠ 0 then erabort "led_state: failed to set"
  modify fun leds => { leds with shows := Function.update leds.shows led state }

/-- What `main` does with the LEDs: init them and turn them all off. -/
def ledsAtStart : LedM Unit := do
  ledInit L
  ledSetState L .blue .off
  ledSetState L .green .off
  ledSetState L .red .off

/-- Every pin is there and does what it is told. -/
structure LedLib.Works (L : LedLib) : Prop where
  bound : ∀ led, L.bound led = true
  gpioPinConfigure : ∀ led, L.gpioPinConfigure led = 0
  gpioPinSet : ∀ led, L.gpioPinSet led = 0

variable {L}

theorem ledsAtStart_run (h : L.Works) (leds : Leds) :
    (ledsAtStart L).run leds = .ok () ⟨fun _ => true, fun _ => .off⟩ := by
  have hone : ∀ led reason leds, (ledInitOne L led reason).run leds = .ok ()
      ⟨Function.update leds.ledDev led true, Function.update leds.shows led .off⟩ := by
    intro led reason leds
    simp [ledInitOne, h.bound, h.gpioPinConfigure]
  have hset : ∀ led state leds, (ledSetState L led state).run leds = .ok ()
      { leds with shows := Function.update leds.shows led state } := by
    intro led state leds
    simp [ledSetState, h.gpioPinSet]
  have hall : ∀ {β : Type} (f : Led → β) (b : β), Function.update (Function.update
      (Function.update f .blue b) .green b) .red b = fun _ => b := by
    intro β f b
    funext led
    cases led <;> simp [Function.update]
  unfold ledsAtStart ledInit
  simp only [EStateM.run_bind, hone, hset, hall]

end Levaware
