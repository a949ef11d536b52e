import TinyRtsp.Foundation.Regex
import TinyRtsp.Foundation.Text

/-! The two regular expressions of `ConnectionHandler`: the request URL and the
Transport header. -/
namespace TinyRtsp

structure RtspUrl where
  protocol : Text
  username : Text
  password : Text
  host : Text
  port : Text
  app : Text
  track : Text

def RtspUrl.empty : RtspUrl := ⟨[], [], [], [], [], [], []⟩

section Expressions
open Regex

def chain : Regex Char → List (Regex Char) → Regex Char
  | r, [] => r
  | r, next :: rest => seq r (chain next rest)

def char (c : Char) : Regex Char := one (· == c)

def literal (c : Char) (rest : Text) : Regex Char := chain (char c) (rest.map char)

/-- `[^c]*` -/
def except (c : Char) : Regex Char := many (· != c)

/-- `\d+` -/
def digits : Regex Char := seq (one Char.isDigit) (many Char.isDigit)

/-- `(rtsp)(?:://(?:([^:]*):([^@]*)@)?([^:]*):(\d+)/([^/]*)(?:/([^/]*))?)` -/
def rtspUrlRegex : Regex Char :=
  chain (group 1 (literal 'r' "tsp".toList))
    [literal ':' "//".toList,
      opt (chain (group 2 (except ':')) [char ':', group 3 (except '@'), char '@']),
      group 4 (except ':'), char ':', group 5 digits, char '/', group 6 (except '/'),
      opt (chain (char '/') [group 7 (except '/')])]

/-- `RTP/AVP;unicast;client_port=(\d+)-(\d+)` -/
def transportRegex : Regex Char :=
  chain (literal 'R' "TP/AVP;unicast;client_port=".toList) [group 1 digits, char '-', group 2 digits]

end Expressions

def parseUrl (url : Text) : Except Exception RtspUrl :=
  match rtspUrlRegex.search url with
  | some urlMatch => .ok ⟨urlMatch 1, urlMatch 2, urlMatch 3, urlMatch 4, urlMatch 5, urlMatch 6,
      urlMatch 7⟩
  | none => .error (.runtimeError "Parse DESCRIBE request url failed.")

structure ClientPorts where
  rtp : Int
  rtcp : Int
  range : Text

/-- The client's ports; a header that does not match leaves the initial values. -/
def parseTransport (transport : Text) : Except Exception ClientPorts :=
  match transportRegex.search transport with
  | some transportMatch => do
    let rtp ← Text.stoi (transportMatch 1)
    let rtcp ← Text.stoi (transportMatch 2)
    return ⟨rtp, rtcp, transportMatch 1 ++ "-".toList ++ transportMatch 2⟩
  | none => return ⟨-1, -1, []⟩

theorem parseTransport_clean {transport : Text} {ports : ClientPorts} (clean : transport.Clean)
    (parsed : parseTransport transport = .ok ports) : ports.range.Clean := by
  unfold parseTransport at parsed
  cases found : transportRegex.search transport with
  | none =>
    simp only [found] at parsed
    obtain rfl := Except.ok.inj parsed
    exact fun _ => nofun
  | some transportMatch =>
    have captured := fun i => clean.subset (Regex.search_subset found i)
    simp only [found, bind, Except.bind] at parsed
    split at parsed
    · contradiction
    · split at parsed
      · contradiction
      · obtain rfl := Except.ok.inj parsed
        have dash : Text.Clean "-".toList := by decide
        exact ((captured 1).append dash).append (captured 2)

end TinyRtsp
