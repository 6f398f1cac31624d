/-! What a gateway handler answers with: the status codes its successes use and
the error type all failures go through. -/

namespace BuildLens.Gateway

inductive StatusCode where
  | ok
  | created
  | accepted
  | noContent
  deriving DecidableEq, Repr

inductive AppError where
  | badRequest (message : String)
  | unauthorized
  | forbidden
  | notFound
  | conflict (message : String)
  | invalidWebhookSignature
  | upstream (detail : String)
  | internal (detail : String)
  deriving DecidableEq, Repr

/-- A statement refused by a schema constraint reaches the caller as an internal error. -/
def AppError.violates (constraint : String) : AppError := .internal constraint

end BuildLens.Gateway
