import Harvest.Failure
import Harvest.Url.Parser

/-!
Links of a page. What starts like an absolute web address stays as it is, a link that starts with two
slashes gets the scheme of its page, and all others are joined onto the page.
-/

namespace Harvest.Url

inductive LinkError
  | invalidPage (page : String) (cause : Error)
  | invalidLink (page href : String) (cause : Error)
deriving DecidableEq, Repr

def LinkError.toFailure : LinkError → Failure
  | invalidPage page cause => ⟨s!"Invalid page url: {page}", [cause.message]⟩
  | invalidLink page href cause => ⟨s!"Cannot join '{href}' onto '{page}'", [cause.message]⟩

/-- The absolute address of a link found on a page. -/
def resolve (page href : String) : Except LinkError String :=
  if href.startsWith "http" then .ok href
  else
    match parse page with
    | .error e => .error (.invalidPage page e)
    | .ok base =>
      if href.startsWith "//" then .ok (base.scheme ++ ":" ++ href)
      else
        match join base href with
        | .error e => .error (.invalidLink page href e)
        | .ok u => .ok u.write

end Harvest.Url
