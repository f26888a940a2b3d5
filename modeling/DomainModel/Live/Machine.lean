import DomainModel.Live.Calling

/-!
# Answers

Requests are answered by the rules for calls, attributes, comparison, display and copies, and the
requests that these make by the same rules. A chain of requests, each made for the one before, that is
longer than values are deep comes back to where it was, and is taken to be `endless`.
-/

namespace DomainModel.Live

open Run

/-- The answer to a request, by rules that have their own requests answered by `ask`. -/
def Request.answerWith (ask : Answering) : Request → Run Value
  | .call f given named => Calling.call ask f given named
  | .read (.cls c) name => Attribute.ofClass ask c name
  | .read v name => Attribute.read ask v name
  | .assign (.cls c) name x => do
    Assigning.assignClass ask c name x
    return .nothing
  | .assign v name x => do
    Assigning.assign ask v name x
    return .nothing
  | .delete (.cls c) name => do
    Assigning.deleteClass c name
    return .nothing
  | .delete v name => do
    Assigning.delete ask v name
    return .nothing
  | .equal a b => Comparison.equal ask a b
  | .order o a b => Comparison.order ask o a b
  | .truth v => do return .truth (← Comparison.truth ask v)
  | .repr v => do Run.text (← Display.repr ask v)
  | .text v => Display.text ask v
  | .hash v => Comparison.hash ask v
  | .isInstance v cls => do return .truth (← Membership.isInstance ask v cls)
  | .isSubclass v c => do return .truth (← Membership.isSubclass ask v c)
  | .copy v => Copying.copy ask v
  | .deepCopy v memo => Copying.deepCopy ask v memo

/-- The answer to a request by a chain of requests of at most the given length. -/
def Request.answerWithin : (fuel : Nat) → Answering
  | 0, _ => fail .endless
  | fuel + 1, r => r.answerWith (answerWithin fuel)

def Request.patience : Nat := 4096

def Request.answer : Answering := Request.answerWithin Request.patience

end DomainModel.Live
