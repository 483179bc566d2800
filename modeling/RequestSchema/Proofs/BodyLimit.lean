import RequestSchema.Proofs.Answers

set_option autoImplicit false

/-!
# The limit on bodies

A body is over the limit by the length that it declares, or by the bytes that it has. Whoever sees
it first, the answer is the same, and it is read from the limit alone.
-/

namespace RequestSchema

/-- A request whose length, declared or not, is over a limit. -/
def Request.IsOver (limit : Int) (request : Request) : Prop :=
  (∃ declared, request.declaredLength = some declared ∧ limit < declared) ∨
    limit < request.body.length

theorem declaresTooMuch_iff (limit : Int) (declared : Option Nat) :
    declaresTooMuch limit declared = true ↔ ∃ n : Nat, declared = some n ∧ limit < n := by
  cases declared <;> simp [declaresTooMuch]

theorem holdsTooMuch_iff {limit : Int} (positive : 1 ≤ limit) (body : List UInt8) :
    holdsTooMuch limit body = true ↔ limit < body.length := by
  have limited : limit ≠ 0 := by omega
  simp [holdsTooMuch, limited]

section

variable {settings : Settings} (positive : 1 ≤ settings.server.maxBodyBytes)

include positive

theorem isOver_iff (request : Request) :
    request.IsOver settings.server.maxBodyBytes ↔
      declaresTooMuch settings.server.maxBodyBytes request.declaredLength = true ∨
        holdsTooMuch settings.server.maxBodyBytes request.body = true := by
  rw [declaresTooMuch_iff, holdsTooMuch_iff positive, Request.IsOver]

/-- What is over the limit is answered by the limit, and the bytes of the body are not looked at. -/
theorem answerPost_over (path : Text) {request : Request}
    (large : request.IsOver settings.server.maxBodyBytes) :
    (answerPost settings path request).1 = .ok (.ofError 413 "body_too_large"
      ("request body exceeds " ++ toString settings.server.maxBodyBytes ++ " bytes") []) := by
  rw [isOver_iff positive] at large
  unfold answerPost
  dsimp only
  rcases large with declared | held
  · rw [if_pos declared]
    exact errorResponse_plain _ _ _
  · split
    · exact errorResponse_plain _ _ _
    · exact errorResponse_plain _ _ _

theorem answerPost_within (path : Text) {request : Request}
    (within : ¬request.IsOver settings.server.maxBodyBytes) :
    answerPost settings path request =
      match readBody request.body with
      | .error fault => refuseBody path fault
      | .ok description => answerDescription settings path description := by
  rw [isOver_iff positive, not_or] at within
  unfold answerPost
  exact (if_neg within.1).trans (if_neg within.2)

theorem answerPost_status_iff (path : Text) (request : Request)
    (success : 200 ≤ settings.server.successStatus ∧ settings.server.successStatus ≤ 299) :
    (∃ response, (answerPost settings path request).1 = .ok response ∧ response.status = 413) ↔
      request.IsOver settings.server.maxBodyBytes := by
  constructor
  · rintro ⟨response, answered, status⟩
    cases proper_of_answerPost answered with
    | tooLarge large => exact (isOver_iff positive request).2 large
    | notJson => cases status
    | refused _ _ known =>
      rcases known with rfl | rfl <;> cases status
    | schema =>
      change settings.server.successStatus = 413 at status
      omega
  · intro large
    exact ⟨_, answerPost_over positive path large, rfl⟩

end

/-- How the bytes of a body are answered that are posted without their length, with it, or with
    another one. -/
structure LimitEnforced (settings : Settings) (route : Route) (path : TargetPath) (method : Text)
    (body : List UInt8) : Prop where
  alike : (answer settings route path ⟨method, none, body⟩).1 =
    (answer settings route path ⟨method, some body.length, body⟩).1
  chunked : (∃ response, (answer settings route path ⟨method, none, body⟩).1 = .ok response ∧
      response.status = 413) ↔ settings.server.maxBodyBytes < body.length
  declared : ∀ declared : Nat,
    (∃ response, (answer settings route path ⟨method, some declared, body⟩).1 = .ok response ∧
      response.status = 413) ↔
        settings.server.maxBodyBytes < declared ∨ settings.server.maxBodyBytes < body.length
  refused : ∀ length response,
    (answer settings route path ⟨method, length, body⟩).1 = .ok response → response.status = 413 →
    response = .ofError 413 "body_too_large"
      ("request body exceeds " ++ toString settings.server.maxBodyBytes ++ " bytes") []
  read : body.length ≤ settings.server.maxBodyBytes → ∀ length ∈ [none, some body.length],
    answer settings route path ⟨method, length, body⟩ =
      match readBody body with
      | .error fault => refuseBody path.shown fault
      | .ok description => answerDescription settings path.shown description

theorem body_limit_enforced {settings : Settings} (positive : 1 ≤ settings.server.maxBodyBytes)
    (success : 200 ≤ settings.server.successStatus ∧ settings.server.successStatus ≤ 299)
    {route : Route} {path : TargetPath} (leads : route.leadsTo path.routed = .ok true)
    {method : Text} (posted : uppered method = "POST") (body : List UInt8) :
    LimitEnforced settings route path method body := by
  have taken : ∀ length, answer settings route path ⟨method, length, body⟩ =
      answerPost settings path.shown ⟨method, length, body⟩ := by
    intro length
    simp only [answer, leads, posted]
    rfl
  have status : ∀ length, (∃ response,
      (answer settings route path ⟨method, length, body⟩).1 = .ok response ∧
        response.status = 413) ↔
      Request.IsOver settings.server.maxBodyBytes ⟨method, length, body⟩ := by
    intro length
    rw [taken]
    exact answerPost_status_iff positive path.shown _ success
  have own : ∀ length ∈ [none, some body.length],
      Request.IsOver settings.server.maxBodyBytes ⟨method, length, body⟩ ↔
        settings.server.maxBodyBytes < body.length := by
    simp [Request.IsOver]
  constructor
  case alike =>
    rw [taken, taken]
    by_cases large : settings.server.maxBodyBytes < body.length
    · rw [answerPost_over positive, answerPost_over positive]
      · exact (own _ (by simp)).2 large
      · exact (own _ (by simp)).2 large
    · rw [answerPost_within positive, answerPost_within positive]
      · rwa [own _ (by simp)]
      · rwa [own _ (by simp)]
  case chunked => rw [status, own none (by simp)]
  case declared =>
    intro declared
    rw [status]
    simp [Request.IsOver]
  case refused =>
    intro length response answered large
    have isOver := (status length).1 ⟨response, answered, large⟩
    rw [taken, answerPost_over positive _ isOver] at answered
    exact (Except.ok.inj answered).symm
  case read =>
    intro within length mem
    rw [taken]
    refine answerPost_within positive _ ?_
    rw [own length mem]
    omega

def fourByteSettings : Settings :=
  { Settings.default with server := { ServerSettings.default with maxBodyBytes := 4 } }

def fiveBytes : List UInt8 := [0x5B, 0x31, 0x2C, 0x32, 0x5D]

theorem five_bytes_over_four :
    1 ≤ fourByteSettings.server.maxBodyBytes ∧
      (200 ≤ fourByteSettings.server.successStatus ∧
        fourByteSettings.server.successStatus ≤ 299) ∧
      (Route.path "/").leadsTo rootPath.routed = .ok true ∧ uppered "POST" = "POST" ∧
      LimitEnforced fourByteSettings (.path "/") rootPath "POST" fiveBytes ∧
      fourByteSettings.server.maxBodyBytes < fiveBytes.length := by
  have positive : 1 ≤ fourByteSettings.server.maxBodyBytes := by decide
  have success : 200 ≤ fourByteSettings.server.successStatus ∧
      fourByteSettings.server.successStatus ≤ 299 := by decide
  have posted : uppered "POST" = "POST" := by decide +kernel
  have enforced : LimitEnforced fourByteSettings (.path "/") rootPath "POST" fiveBytes :=
    body_limit_enforced positive success leadsTo_root posted fiveBytes
  exact ⟨positive, success, leadsTo_root, posted, enforced, by decide⟩

end RequestSchema
