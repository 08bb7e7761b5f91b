import CyreneExchange.General.Traced
import CyreneExchange.Gateway.Assembly
import CyreneExchange.Gateway.Protocol

/-! The collaborators of one gateway request, what they may raise, and the
events its durable observer receives. -/
namespace CyreneExchange.Gateway
open CyreneExchange.General

/-- The codes of a typed embedding error. -/
inductive EmbeddingErrorCode where
  | invalidRequest | modelNotFound | internal | unavailable | rateLimited
deriving DecidableEq, Repr

/-- `EmbeddingProviderResponseError._ERRORS`: status and public type. -/
def EmbeddingErrorCode.mapped : EmbeddingErrorCode → Nat × Str
  | .invalidRequest => (400, "invalid_request_error")
  | .modelNotFound => (404, "model_not_found")
  | .internal => (502, "provider_error")
  | .unavailable => (502, "provider_error")
  | .rateLimited => (429, "rate_limit_error")

/-- A Python exception by the classes the gateway tells apart. -/
inductive Raise where
  | authentication
  | quotaExceeded
  | quotaUnavailable
  | requestCancelled (usage : Option ProviderUsage)
  | invalidRequest
  | modelNotPermitted
  | noRoute
  | mediaUnavailable
  | lifecycle
  | providerFailure (usage : Option ProviderUsage)
  | embeddingResponse (code : EmbeddingErrorCode)
  | providerInvocationCancelled
  | providerEmbedding (code : EmbeddingErrorCode)
  | protocolError
  | ordinary (className : Str) (usage : Option ProviderUsage)
  | base (className : Str)
deriving DecidableEq, Repr

namespace Raise

/-- `isinstance(exc, Exception)`. -/
def isException : Raise → Bool
  | .base _ => false
  | _ => true

/-- `getattr(exc, "usage", None)`. -/
def usage : Raise → Option ProviderUsage
  | .requestCancelled usage => usage
  | .providerFailure usage => usage
  | .ordinary _ usage => usage
  | _ => none

/-- `_audit_error_type`: the public type of a gateway error, else the class name. -/
def auditErrorType : Raise → Str
  | .authentication => "authentication_error"
  | .quotaExceeded => "quota_exceeded"
  | .quotaUnavailable => "quota_unavailable"
  | .requestCancelled _ => "request_cancelled"
  | .invalidRequest => "invalid_request_error"
  | .modelNotPermitted => "model_not_permitted"
  | .noRoute => "no_route"
  | .mediaUnavailable => "media_artifact_unavailable"
  | .lifecycle => "gateway_lifecycle_error"
  | .providerFailure _ => "provider_error"
  | .embeddingResponse code => code.mapped.2
  | .providerInvocationCancelled => "ProviderInvocationCancelled"
  | .providerEmbedding _ => "ProviderEmbeddingError"
  | .protocolError => "ProtocolError"
  | .ordinary className _ => className
  | .base className => className

/-- What the parser raises, as the gateway sees it. -/
def ofRaised : Raised → Raise
  | .protocolError _ => .protocolError
  | .typeError => .ordinary "TypeError" none
  | .overflowError => .ordinary "OverflowError" none
  | .unicodeEncodeError => .ordinary "UnicodeEncodeError" none

end Raise

/-- Trusted identity resolved from a credential. -/
structure RequestPrincipal where
  actorId : Str
  workspaceId : Str
  credentialRef : Str
  modelScope : List Str := []
  organizationId : Option Str := none
deriving DecidableEq

/-- The characters a `[...]` of a shell pattern lists, and what follows it. -/
def bracketBody : Str → Option (Str × Str)
  | [] => none
  | c :: rest => if c.val = 93 then some ([], rest) else
      (bracketBody rest).map fun (body, after) => (c :: body, after)

/-- The body of a `[...]`; a closing bracket in first place, or after a first
`!`, stands for itself. -/
def bracket (s : Str) : Option (Str × Str) :=
  match s with
  | [] => none
  | c :: rest =>
      if c.val = 33 then
        match rest with
        | [] => none
        | d :: rest => (bracketBody rest).map fun (body, after) => (c :: d :: body, after)
      else (bracketBody rest).map fun (body, after) => (c :: body, after)

/-- The characters and `a-z` ranges of a bracket body hold this character. -/
def inRanges (x : CodePoint) : Str → Bool
  | low :: dash :: high :: rest =>
      if dash.val = 45 then (decide (low.val ≤ x.val) && decide (x.val ≤ high.val)) || inRanges x rest
      else low == x || inRanges x (dash :: high :: rest)
  | c :: rest => c == x || inRanges x rest
  | [] => false

theorem length_bracketBody {s body after : Str} (h : bracketBody s = some (body, after)) :
    after.length < s.length := by
  induction s generalizing body with
  | nil => cases h
  | cons c rest ih =>
      rw [bracketBody] at h
      split at h
      · cases h
        exact Nat.lt_succ_self _
      · obtain ⟨⟨inner, tail⟩, hInner, hEq⟩ := Option.map_eq_some_iff.mp h
        cases hEq
        exact Nat.lt_succ_of_lt (ih hInner)

theorem length_bracket {s body after : Str} (h : bracket s = some (body, after)) :
    after.length < s.length := by
  unfold bracket at h
  split at h
  · cases h
  · split at h
    · split at h
      · cases h
      · obtain ⟨⟨inner, tail⟩, hInner, hEq⟩ := Option.map_eq_some_iff.mp h
        cases hEq
        have := length_bracketBody hInner
        simp only [List.length_cons]
        omega
    · obtain ⟨⟨inner, tail⟩, hInner, hEq⟩ := Option.map_eq_some_iff.mp h
      cases hEq
      have := length_bracketBody hInner
      simp only [List.length_cons]
      omega

/-- `fnmatchcase(name, pattern)`. -/
def fnmatchcase (name pattern : Str) : Bool :=
  match pattern with
  | [] => name.isEmpty
  | p :: rest =>
      if p.val = 42 then
        fnmatchcase name rest || (match name with
          | [] => false
          | _ :: tail => fnmatchcase tail (p :: rest))
      else
        match name with
        | [] => false
        | c :: tail =>
            if p.val = 63 then fnmatchcase tail rest
            else if p.val = 91 then
              match hBracket : bracket rest with
              | none => p == c && fnmatchcase tail rest
              | some (body, after) =>
                  (if (body.head?.any fun b => b.val == 33) then !inRanges c body.tail
                    else inRanges c body) && fnmatchcase tail after
            else p == c && fnmatchcase tail rest
termination_by name.length + pattern.length
decreasing_by
  all_goals simp_wf
  all_goals first
    | omega
    | (have hShorter := length_bracket hBracket; omega)

/-- `RequestPrincipal.permits`. -/
def RequestPrincipal.permits (principal : RequestPrincipal) (model : Str) : Bool :=
  principal.modelScope.isEmpty || principal.modelScope.any fun pattern => fnmatchcase model pattern

end CyreneExchange.Gateway
