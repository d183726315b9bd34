/-!
# The product

The name and version announced with every audit write, and the name of the command.
-/

namespace QueryAudit.Product

/-- Product name announced to the collector. -/
def name : String := "GABI"

/-- Version of this program. -/
def version : String := "1.4.1"

/-- Value of the `user-agent` header: product and version, divided by a slash. -/
def userAgent : String := name ++ "/" ++ version

/-- Name of the command, as help texts and the configuration display give it. -/
def command : String := "gabi-audit"

/-- Answer to a request for the version. -/
def versionLine : String := command ++ " " ++ version

end QueryAudit.Product
