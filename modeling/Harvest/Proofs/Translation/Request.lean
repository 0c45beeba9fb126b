import Harvest.Proofs.Url.Form
import Harvest.Translation.Request

/-!
Signed requests as the service reads them. The signature is made from the text before it is encoded, and the service
makes it again from what it has decoded.
-/

namespace Harvest.Translation

/-- The signature that the service expects, by the fields it has read and the secret that it shares. -/
def expectedSign (secret : String) (fields : List (String × String)) : Option String := do
  let appId ← fields.lookup "appid"
  let text ← fields.lookup "q"
  let salt ← fields.lookup "salt"
  pure (Digest.fingerprint (appId ++ text ++ salt ++ secret))

theorem decode_form (r : Request) : Url.Form.decode r.form = some r.fields :=
  Url.Form.decode_encode r.fields

theorem expectedSign_fields (c : Credentials) (text target : String) (salt : Nat) :
    expectedSign c.secret (Request.signed c text target salt).fields =
      some (Request.signed c text target salt).signature := rfl

theorem decode_form_signed (c : Credentials) (text target : String) (salt : Nat) :
    ∃ signature fields,
      fields = [("sign", signature), ("salt", toString salt), ("appid", c.appId), ("from", "auto"), ("to", target),
        ("q", text)] ∧
      Url.Form.decode (Request.signed c text target salt).form = some fields ∧
      expectedSign c.secret fields = some signature := by
  have decoded := decode_form (Request.signed c text target salt)
  have expected := expectedSign_fields c text target salt
  exact ⟨_, _, rfl, decoded, expected⟩

end Harvest.Translation
