import GraphBrowser.Error
import GraphBrowser.Url.Basic

namespace GraphBrowser

/-- The address of the service, how long to wait for an answer, in milliseconds, and the name under
which requests are made. -/
structure Config where
  baseUrl : String
  timeout : Nat
  userAgent : String
  deriving DecidableEq, Repr

inductive ConfigError where
  | badUrl (baseUrl : String) (reason : Url.ParseError)
  | badScheme (scheme : String)
  | noTimeout
  | badUserAgent
  deriving DecidableEq, Repr

def ConfigError.message : ConfigError → String
  | .badUrl baseUrl reason => "invalid base URL '" ++ baseUrl ++ "': " ++ reason.message
  | .badScheme scheme => "base URL must use http or https, got '" ++ scheme ++ "'"
  | .noTimeout => "timeout must be greater than zero"
  | .badUserAgent => "failed to create HTTP client: builder error"

namespace Config

def defaultApiUrl : String := "http://localhost:8080/api"

def defaultTimeout : Nat := 30000

def defaultUserAgent : String := "depview/0.1.0"

def default : Config := ⟨defaultApiUrl, defaultTimeout, defaultUserAgent⟩

def new (baseUrl : String) : Config := { default with baseUrl := baseUrl }

/-- The address must be that of a web service, and there must be time to wait. -/
def check (c : Config) : Except ConfigError Unit :=
  match Url.parse c.baseUrl with
  | .error e => .error (.badUrl c.baseUrl e)
  | .ok (.other scheme) => .error (.badScheme scheme)
  | .ok (.web _) => if c.timeout = 0 then .error .noTimeout else .ok ()

def validate (c : Config) : Except Error Unit := c.check.mapError fun e => .invalidConfig e.message

def isHeaderChar (c : Char) : Bool := c = '\t' || (0x20 ≤ c.toNat && c.toNat ≠ 0x7f)

end Config

end GraphBrowser
