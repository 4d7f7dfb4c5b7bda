import Sep2Bridge.Scheduler.Attributes

/-!
# Scheduler events

The events the scheduler broadcasts, and the reply address a control asks to be answered at.
-/

namespace Sep2Bridge

structure PostRates where
  der : Option UInt32 := none
  mirrorUsagePoint : Option UInt32 := none
  deriving DecidableEq

/-- `scheduler::Event`. -/
inductive Event
  | linkAddedOrUpdated (href : String) (kind : ResourceKind) (pollRate : Option UInt32)
  | linkRemoved (href : String) (kind : ResourceKind)
  | parametersChanged (attributes : ControlAttributes)
  | derControlStatusChanged (subject : MRIDType) (status : ResponseStatus) (replyTo : String)
  | postRatesChanged (rates : PostRates)
  deriving DecidableEq

/-- The reply address of a control, if it has one and asks for responses of the given kind. -/
def replyToIfRequired (derControl : DERControl) (responseType : ResponseRequired → Bool) :
    Option String :=
  derControl.responseRequired.bind fun rr => if responseType rr then derControl.replyTo else none

end Sep2Bridge
