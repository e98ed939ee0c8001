import RegisterGateway.Text.Blank

/-!
# Bearer tokens

The tokens that open the HTTP interface. Blank tokens are dropped when the set is made; a
presented token loses its surrounding blanks before it is compared.
-/

namespace RegisterGateway.Access

/-- Why a presented token does not pass. -/
inductive TokenError where
  | missing
  | invalid
  deriving DecidableEq, Repr

def TokenError.message : TokenError → String
  | .missing => "missing bearer token"
  | .invalid => "token invalid"

/-- The known tokens, and whether one of them is asked for at all. -/
structure TokenSet where
  enabled : Bool
  tokens : List String
  deriving DecidableEq, Repr

namespace TokenSet

def make (enabled : Bool) (tokens : List String) : TokenSet :=
  ⟨enabled, tokens.filter (fun token => !Text.isAllBlank token)⟩

def disabled : TokenSet := ⟨false, []⟩

/-- Checks what a request presents. -/
def verify (set : TokenSet) (presented : Option String) : Except TokenError Unit :=
  if !set.enabled then .ok ()
  else match presented with
    | none => .error .missing
    | some text =>
        if Text.isAllBlank text then .error .missing
        else if set.tokens.contains (Text.trim text) then .ok ()
        else .error .invalid

end TokenSet

end RegisterGateway.Access
