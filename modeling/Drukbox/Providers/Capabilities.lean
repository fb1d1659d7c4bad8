import Drukbox.HostSecrets.Catalog
import Drukbox.HostSecrets.Placeholder

/-!
# Secret injection

How a secret reaches a box: the environment that `put_secret` returns.
-/

namespace Drukbox

namespace ProxyInjection

def noProxy : String := "localhost,127.0.0.1,::1,169.254.169.254"

def systemCaBundle : String := "/etc/ssl/certs/ca-certificates.crt"

def proxyCaPath : String := "/usr/local/share/ca-certificates/drukbox.crt"

/-- The settings of the proxy and the trust variables, for the bytes of the public certificate. -/
def proxyVariables (settings : Settings) (certificate : List UInt8) : Dict String :=
  [("HTTPS_PROXY", settings.secretsProxyUrl), ("https_proxy", settings.secretsProxyUrl),
    ("NO_PROXY", noProxy), ("SECRETS_PROXY_CA", String.ofList (Base64.encode certificate)),
    ("SSL_CERT_FILE", systemCaBundle), ("REQUESTS_CA_BUNDLE", systemCaBundle),
    ("CURL_CA_BUNDLE", systemCaBundle), ("NODE_EXTRA_CA_CERTS", proxyCaPath)]

def putSecret (settings : Settings) (certificate : List UInt8) (service : Service)
    (placeholder : Placeholder) : Dict String :=
  Dict.update []
    ((service.authVariable, placeholder.toText) :: proxyVariables settings certificate)

end ProxyInjection

/-- The environment that `SbxInjection.put_secret` returns. -/
def SbxInjection.putSecret (service : Service) (placeholder : Placeholder) : Dict String :=
  [(service.authVariable, placeholder.toText)]

end Drukbox
