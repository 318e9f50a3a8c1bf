import Provisioning.Text.Blank
import Provisioning.Url

/-!
The paths by which a boot loader fetches files from other machines, such as
`(http,host:8080)/images/kernel`.
-/

namespace Provisioning.DevicePath

def authority (url : Url) : String :=
  match url.port with
  | some port => s!"{url.host.text}:{port}"
  | none => url.host.text

def ofUrl? (url : Url) : Option String :=
  let file := String.ofList (url.path.toList.dropWhile (· == '/'))
  if file.isEmpty then
    none
  else
    some s!"({url.scheme.name},{authority url})/{file}"

def ofText? (text : String) : Option String :=
  (Url.read? (Text.trim text)).bind ofUrl?

end Provisioning.DevicePath
