/-!
# Request headers

Explorers turn away requests that do not look like those of a browser, so each
page is asked for with the headers of one. The authority names the host; it is
left out when its text cannot stand in a header.
-/

namespace ExplorerProxy.Explorer

set_option autoImplicit false

def fixedHeaders : List (String × String) := [
    ("accept", "text/html,application/xhtml+xml,application/xml;q=0.9,image/avif,image/webp," ++
      "image/apng,*/*;q=0.8,application/signed-exchange;v=b3;q=0.9"),
    ("accept-language", "zh-CN,zh;q=0.9,en;q=0.8"),
    ("cache-control", "max-age=0"),
    ("sec-ch-ua", "\"Not?A_Brand\";v=\"8\", \"Chromium\";v=\"108\", \"Google Chrome\";v=\"108\""),
    ("sec-ch-ua-mobile", "?0"),
    ("sec-ch-ua-platform", "\"macOS\""),
    ("sec-fetch-dest", "document"),
    ("sec-fetch-mode", "navigate"),
    ("sec-fetch-site", "none"),
    ("sec-fetch-user", "?1"),
    ("upgrade-insecure-requests", "1"),
    ("user-agent", "Mozilla/5.0 (Macintosh; Intel Mac OS X 10_15_7) AppleWebKit/537.36 " ++
      "(KHTML, like Gecko) Chrome/108.0.0.0 Safari/537.36")
  ]

/-- The characters that can stand in the value of a header. -/
def inHeader (c : Char) : Bool := c == '\t' || (0x20 ≤ c.toNat && c.toNat != 0x7f)

def headers (host : Option String) : List (String × String) :=
  match host with
  | some h => if h.toList.all inHeader then ("authority", h) :: fixedHeaders else fixedHeaders
  | none => fixedHeaders

end ExplorerProxy.Explorer
