import XCron.Frontend.Scheduling
import XCron.Platform.Trace

/-!
# The schedule page

`app/schedule/page.tsx` leads from a template, or from an address and an endpoint that are typed
in, over the deposit to a confirmation. Every form that is confirmed asks for one execution, also
where the template was a recurring one. The confirmation shows no input, and without one no key
reaches `handleSubmit`.
-/

namespace XCron.Frontend

open Platform
open Platform.JsString

/-! ## The flow -/

structure Contracts where
  scheduler : JsString
  ping : JsString
  vault : JsString

inductive TemplateType where
  | quicktest | compound | dca | stoploss | claim | nftmint | custom | smartintent
  deriving DecidableEq

def ScheduleForm.empty : ScheduleForm where
  targetContract := []
  targetEndpoint := []
  recurring := false
  interval := some 604800
  maxGas := some 10000000

inductive FlowStep where
  | template | contract | endpoint | deposit | confirm
  deriving DecidableEq

/-- What the page keeps, with the forms that `handleSubmit` was called for. -/
structure SchedulePage where
  step : FlowStep
  template : TemplateType
  inputValue : JsString
  error : JsString
  form : ScheduleForm
  submitted : List ScheduleForm

namespace SchedulePage

def opened : SchedulePage where
  step := .template
  template := .custom
  inputValue := []
  error := []
  form := .empty
  submitted := []

/-- `setStep`, with the effect of a change. -/
def setStep (page : SchedulePage) (step : FlowStep) : SchedulePage :=
  if page.step = step then page else { page with step := step, inputValue := [], error := [] }

inductive Event where
  | linked (key : TemplateType)
  | pill (key : TemplateType)
  | typed (text : JsString)
  | enter
  | escape
  | back

/-- What the page shows something for: the input everywhere but at the confirmation, the button
to go back everywhere but at the start, the templates there. -/
def Offers (page : SchedulePage) : Event → Prop
  | .linked _ => True
  | .pill key => page.step = .template ∧ key ≠ .custom
  | .typed _ | .enter | .escape => page.step ≠ .confirm
  | .back => page.step ≠ .template

instance (page : SchedulePage) (event : Event) : Decidable (page.Offers event) :=
  match event with
  | .linked _ => inferInstanceAs (Decidable True)
  | .pill _ => inferInstanceAs (Decidable (_ ∧ _))
  | .typed _ | .enter | .escape | .back => inferInstanceAs (Decidable (_ ≠ _))

@[simp] theorem setStep_form (page : SchedulePage) (step : FlowStep) :
    (page.setStep step).form = page.form := by
  unfold setStep
  split <;> rfl

@[simp] theorem setStep_submitted (page : SchedulePage) (step : FlowStep) :
    (page.setStep step).submitted = page.submitted := by
  unfold setStep
  split <;> rfl

/-- Nothing was sent, and what waits for the confirmation is a single execution. -/
structure Awaits (page : SchedulePage) : Prop where
  submitted : page.submitted = []
  once : page.step = .confirm → page.form.recurring = false
  maxGas : page.step = .confirm → page.form.maxGas = some 10000000

theorem Awaits.elsewhere {page : SchedulePage} (submitted : page.submitted = [])
    (other : page.step ≠ .confirm) : page.Awaits where
  submitted := submitted
  once here := absurd here other
  maxGas here := absurd here other

end SchedulePage

/-! ## What is received -/

section Received

variable {core : Core} {wallet : JsString} {form : ScheduleForm} {owner target : Bytes32}
  {maxGas : UInt64}

/-- The owner that a request names: the wallet, or zeros for a wallet without an address. -/
def signer (core : Core) (wallet : JsString) : Option Bytes32 :=
  if wallet = [] then some (.fill 0) else core.newFromBech32 wallet

end Received

namespace Sample

def contracts : Contracts where
  scheduler := []
  ping := []
  vault := contract

end Sample

end XCron.Frontend
