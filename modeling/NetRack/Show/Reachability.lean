import NetRack.Text.Layout
import NetRack.Topology.Trace

/-!
# Reachability

What `ping` and `traceroute` print of a traced packet, and the notices of interfaces whose state
changed.
-/

namespace NetRack.Show

open Text

/-- Where and why a packet got no further. -/
def failureLine (f : TraceFailure) : String :=
  "% Failed at hop " ++ natText f.number ++ " (" ++ f.device ++ "): " ++ f.reason.text ++
    (if f.detail.isEmpty then "" else " (" ++ f.detail ++ ")")

/-- What `ping` prints on an end host. -/
def hostPing (r : TraceReport) : String :=
  let statistics := ["", "Ping statistics for " ++ r.target ++ ":"]
  let body := match r.failure with
    | none =>
      let ttl := intText (255 - (r.hops.length : Int) + 1)
      List.replicate 4 ("Reply from " ++ r.target ++ ": bytes=32 time<1ms TTL=" ++ ttl)
        ++ statistics ++ ["    Packets: Sent = 4, Received = 4, Lost = 0 (0% loss),"]
    | some f =>
      List.replicate 4 "Request timed out." ++ statistics
        ++ ["    Packets: Sent = 4, Received = 0, Lost = 4 (100% loss),", failureLine f]
  unlines (["Pinging " ++ r.target ++ " with 32 bytes of data:", ""] ++ body)

/-- What `ping` prints on a router or a switch. -/
def devicePing (r : TraceReport) : String :=
  let body := match r.failure with
    | none => ["!!!!!", "Success rate is 100 percent (5/5), round-trip min/avg/max = 1/1/1 ms"]
    | some f =>
      [if f.reason = .aclDeny then "U.U.U" else ".....", "Success rate is 0 percent (0/5)",
        failureLine f]
  unlines (["Type escape sequence to abort.",
    "Sending 5, 100-byte ICMP Echos to " ++ r.target ++ ", timeout is 2 seconds:"] ++ body)

/-- What `ping` prints. -/
def ping (host : Bool) (r : TraceReport) : String := if host then hostPing r else devicePing r

/-- The line of a device that a traced packet came to. -/
def hopLine (host : Bool) (h : TraceHop) : String :=
  let number := "  " ++ padRight 2 (natText (h.number - 1))
  let address := h.address.getD "None"
  if host then number ++ " 0 ms 0 ms 0 ms " ++ address
  else number ++ " " ++ address ++ " 1 msec 1 msec 1 msec"

/-- What `traceroute` prints. -/
def traceroute (host : Bool) (r : TraceReport) : String :=
  let head :=
    if host then ["Tracing route to " ++ r.target ++ " over a maximum of 30 hops: ", ""]
    else ["Type escape sequence to abort.", "Tracing the route to " ++ r.target, ""]
  let tail := match r.failure with
    | some f => ["  " ++ padRight 2 (natText r.hops.length) ++ " *  *  *", failureLine f]
    | none =>
      if host then ["", "Trace complete."]
      else linesIf (r.hops.length = 1) ["  1  " ++ r.target ++ " 1 msec 1 msec 1 msec"]
  unlines (head ++ (r.hops.drop 1).map (hopLine host) ++ tail)

/-! ## Notices -/

/-- The notices of an interface, given whether it was switched on and working before. -/
def stateNotices (wasAdmin wasUp : Bool) (i : Interface) : List String :=
  let link (code text : String) : String :=
    "%LINK-" ++ code ++ ": Interface " ++ i.name ++ ", changed state to " ++ text
  let line (text : String) : String :=
    "%LINEPROTO-5-UPDOWN: Line protocol on Interface " ++ i.name ++ ", changed state to " ++ text
  if i.adminUp = wasAdmin && i.operUp = wasUp then []
  else if !i.adminUp then
    link "5-CHANGED" "administratively down" :: linesIf wasUp [line "down"]
  else if i.operUp then [link "5-CHANGED" "up", line "up"]
  else link "3-UPDOWN" "down" :: linesIf wasUp [line "down"]

/-- The notices of the interfaces of a device whose state changed. -/
def linkNotices (before after : Device) : Except Fault (List String) := do
  return (← after.sortedInterfaces).flatMap fun i =>
    let old := before.interfaces.get? i.name
    stateNotices (old.any (·.adminUp)) (old.any (·.operUp)) i

end NetRack.Show
