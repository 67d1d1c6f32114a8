/-
This file says that the message of an error tells the reason of the condition that reports it. A
condition is written only when its status or its message is new, so a reason that the message did
not tell could go stale. The messages of different reasons begin with different characters, but for
two: a Secret that is not found and a Secret that somebody else controls, whose messages end
differently, whatever the names in them are.
-/

import GatewayOperator.Failure

namespace GatewayOperator

/-- The reason that is told by the first and the last character of a message. -/
def reasonOfEnds : Option Char → Option Char → String
  | some 'F', _ => "SecretReferenceIncomplete"
  | some 'R', _ => "SecretKeyMissing"
  | some 'A', _ => "CredentialMissing"
  | some 'I', _ => "InvalidAdminPortalURL"
  | _, some 'd' => "SecretNotFound"
  | _, _ => "AlreadyOwned"

/-- The reason that a message tells. -/
def reasonOfMessage (message : String) : String :=
  reasonOfEnds message.toList.head? message.toList.getLast?

/-- The first character of a text is that of its first part. -/
theorem head?_toList_append {first : String} {character : Char}
    (head : first.toList.head? = some character) (rest : String) :
    (first ++ rest).toList.head? = some character := by
  rw [String.toList_append, List.head?_append, head]
  rfl

/-- The last character of a text is that of its last part. -/
theorem getLast?_toList_append {last : String} {character : Char}
    (final : last.toList.getLast? = some character) (front : String) :
    (front ++ last).toList.getLast? = some character := by
  rw [String.toList_append, List.getLast?_append, final]
  rfl

namespace ReconcileError

/-- The message of an error tells its reason. -/
def Legible (error : ReconcileError) : Prop := reasonOfMessage error.message = error.reason

/-- The first character tells the reason, unless it is that of a Secret. -/
theorem legible_of_head {error : ReconcileError} (character : Char)
    (head : error.message.toList.head? = some character)
    (tells : ∀ last, reasonOfEnds (some character) last = error.reason) : error.Legible := by
  unfold Legible reasonOfMessage
  rw [head]
  exact tells error.message.toList.getLast?

theorem legible_referenceIncomplete (field : String) : (referenceIncomplete field).Legible := by
  refine legible_of_head 'F' ?_ fun _ => rfl
  repeat refine head?_toList_append ?_ _
  decide

theorem legible_keyMissing (key secret : String) : (keyMissing key secret).Legible := by
  refine legible_of_head 'R' ?_ fun _ => rfl
  repeat refine head?_toList_append ?_ _
  decide

theorem legible_credentialMissing (key secret : String) :
    (credentialMissing key secret).Legible := by
  refine legible_of_head 'A' ?_ fun _ => rfl
  repeat refine head?_toList_append ?_ _
  decide

theorem legible_invalidAdminPortalUrl (key secret : String) (cause : UrlError) :
    (invalidAdminPortalUrl key secret cause).Legible := by
  refine legible_of_head 'I' ?_ fun _ => rfl
  repeat refine head?_toList_append ?_ _
  decide

/-- The message about a Secret that is not found ends with that word. -/
theorem legible_secretNotFound (field namespaceName name : String) :
    (secretNotFound field namespaceName name).Legible := by
  have head : (secretNotFound field namespaceName name).message.toList.head? = some 'S' := by
    repeat refine head?_toList_append ?_ _
    decide
  have last : (secretNotFound field namespaceName name).message.toList.getLast? = some 'd' :=
    getLast?_toList_append (by decide) _
  unfold Legible reasonOfMessage
  rw [head, last]
  rfl

/-- The message about a Secret that somebody else controls ends with a quote. -/
theorem legible_alreadyOwned (namespaceName name ownerKind owner : String) :
    (alreadyOwned "Secret" namespaceName name ownerKind owner).Legible := by
  have head : (alreadyOwned "Secret" namespaceName name ownerKind owner).message.toList.head? =
      some 'S' := by
    repeat refine head?_toList_append ?_ _
    decide
  have last : (alreadyOwned "Secret" namespaceName name ownerKind owner).message.toList.getLast? =
      some '\'' :=
    getLast?_toList_append (by decide) _
  unfold Legible reasonOfMessage
  rw [head, last]
  rfl

end ReconcileError

end GatewayOperator
