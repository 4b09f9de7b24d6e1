import InterfaceGen.Text.Lines

/-!
# Samples

Declarations to begin with. Together they use everything that a declaration can hold.
-/

namespace InterfaceGen

open Text

/-- A declaration under a name. -/
structure Sample where
  name : String
  source : String
  deriving DecidableEq, Repr

namespace Sample

/-- A record of single values. -/
def user : Sample where
  name := "User"
  source := joinLines [
    "interface User \x7b",
    "\tname: string;",
    "\tage: number;",
    "\tactive: boolean;",
    "\x7d",
    ""]

/-- A record with nested objects and nested arrays of objects. -/
def blogPost : Sample where
  name := "BlogPost"
  source := joinLines [
    "interface BlogPost \x7b",
    "\tid: string;",
    "\ttitle: string;",
    "\tpublished: boolean;",
    "\tpublishedAt?: string;",
    "\tauthor: \x7b",
    "\t\tname: string;",
    "\t\tavatarUrl?: string;",
    "\t\tsocial?: \x7b",
    "\t\t\tgithub?: string;",
    "\t\t\twebsite?: string;",
    "\t\t\x7d;",
    "\t\x7d;",
    "\ttags: string[];",
    "\tformat: \"markdown\" | \"html\";",
    "\tcomments?: \x7b",
    "\t\tuser: string;",
    "\t\tmessage: string;",
    "\t\treplies?: \x7b",
    "\t\t\tuser: string;",
    "\t\t\tmessage: string;",
    "\t\t\x7d[];",
    "\t\x7d[];",
    "\x7d",
    ""]

/-- A record with arrays of values and of objects. -/
def order : Sample where
  name := "Order"
  source := joinLines [
    "type Order = \x7b",
    "\torderId: string;",
    "\tstatus: \"pending\" | \"shipped\" | \"delivered\";",
    "\tcustomer: \x7b",
    "\t\tname: string;",
    "\t\temail: string;",
    "\t\tloyaltyPoints?: number;",
    "\t\x7d;",
    "\titems: \x7b",
    "\t\tsku: string;",
    "\t\tquantity: number;",
    "\t\tprice: number;",
    "\t\x7d[];",
    "\tcouponCodes?: string[];",
    "\tgift: boolean;",
    "\x7d",
    ""]

/-- A record with optional objects. -/
def subscription : Sample where
  name := "Subscription"
  source := joinLines [
    "interface Subscription \x7b",
    "\tcustomerId: string;",
    "\tplan: \"free\" | \"pro\" | \"team\";",
    "\ttrialEndsAt?: string;",
    "\tbilling: \x7b",
    "\t\tcurrency: string;",
    "\t\tpaymentMethod: \x7b",
    "\t\t\tlast4?: string;",
    "\t\t\tbrand?: string;",
    "\t\t\x7d;",
    "\t\x7d;",
    "\tusage?: \x7b",
    "\t\tapiCalls: number;",
    "\t\tseats: number;",
    "\t\tintegrationsEnabled: string[];",
    "\t\x7d;",
    "\x7d",
    ""]

/-- Every sample. -/
def all : List Sample :=
  [user, blogPost, order, subscription]

/-- A name in which letters of ASCII have lost their case. -/
def foldCase (name : String) : List Char :=
  name.toList.map Char.toLower

/-- The sample of a name, whatever the case of its letters. -/
def find? (name : String) : Option Sample :=
  all.find? fun sample => foldCase sample.name = foldCase name

/-- The names of the samples on one line. -/
def known : String :=
  join ", " (all.map (·.name))

end Sample

end InterfaceGen
