/-!
# Liveness and readiness

Two paths can be asked for: whether the program runs, and whether it is ready. It is ready once the
wait for the first lists is over, and not any more once it has been told to stop.
-/

namespace EndpointSync.Admin

structure Answer where
  status : Nat
  body : String
  contentType? : Option String
deriving DecidableEq, Repr

/-- Only an answer with a body has a type. -/
def respond (status : Nat) (body : String) : Answer :=
  ⟨status, body, if body = "" then none else some "text/plain"⟩

/-- The answer for a method and a path. Where only the head is asked for, the body is not sent. -/
def answer (isReady : Bool) (method path : String) : Answer :=
  if method ≠ "GET" && method ≠ "HEAD" then respond 405 ""
  else if path = "/live" then respond 200 "alive\n"
  else if path = "/ready" then
    if isReady then respond 200 "ready\n" else respond 500 "not ready\n"
  else respond 404 ""

/-- What has been said about readiness. -/
inductive Readiness where
  | waiting
  | ready
  /-- The program was told to stop. -/
  | withdrawn
deriving DecidableEq, Repr

def Readiness.isReady (r : Readiness) : Bool := r = .ready

theorem status_answer_ready (isReady : Bool) (method : String) :
    (answer isReady method "/ready").status = 200 ↔
      isReady = true ∧ (method = "GET" ∨ method = "HEAD") := by
  unfold answer
  by_cases hget : method = "GET"
  · cases isReady <;> simp [hget, respond]
  by_cases hhead : method = "HEAD"
  · cases isReady <;> simp [hhead, respond]
  simp [hget, hhead, respond]

end EndpointSync.Admin
