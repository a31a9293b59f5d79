import RemoteTail.Cursor.Blocks
import RemoteTail.Main
import RemoteTail.Simulation.Terminal
import RemoteTail.Text.ByteSize
import RemoteTail.Proofs.Cursor.Tracks
import RemoteTail.Proofs.Tail.Location
import RemoteTail.Proofs.Simulation.Growth
import RemoteTail.Proofs.Cursor.Start
import RemoteTail.Proofs.Text.Boundary
import RemoteTail.Proofs.Cursor.GrowingFile
import RemoteTail.Proofs.Cursor.Continuity
import RemoteTail.Proofs.Cursor.Drain
import RemoteTail.Proofs.Cursor.Served
import RemoteTail.Proofs.Cursor.TopToBottom
import RemoteTail.Proofs.Cursor.TextBlocks
import RemoteTail.Proofs.Cursor.LastLines
import RemoteTail.Proofs.Cursor.Course
import RemoteTail.Proofs.Cursor.Limit
import RemoteTail.Proofs.Cursor.VainPulls
import RemoteTail.Proofs.Cursor.Incidents
import RemoteTail.Proofs.Cursor.Following
import RemoteTail.Proofs.Cursor.AlignedText
import RemoteTail.Proofs.Tail.CappedReads
import RemoteTail.Proofs.Session.Endpoint
import RemoteTail.Proofs.Session.Relay
import RemoteTail.Proofs.Cursor.Records
import RemoteTail.Proofs.Cursor.ShortReads
import RemoteTail.Proofs.Cursor.ReadCount
import RemoteTail.Proofs.Tail.AnyEndpoint
import RemoteTail.Proofs.Cursor.Formatters
import RemoteTail.Proofs.Cursor.BlockSequences
import RemoteTail.Proofs.Output.EntryRecord
import RemoteTail.Proofs.Output.LineFrame
import RemoteTail.Proofs.Remote.Response
import RemoteTail.Proofs.Session.SettingsFile
import RemoteTail.Proofs.Session.Headers
import RemoteTail.Proofs.Line.Division
import RemoteTail.Proofs.Line.Reversal
import RemoteTail.Proofs.Line.Chunks
import RemoteTail.Proofs.Simulation.Alignment
import RemoteTail.Proofs.Time.CivilText
import RemoteTail.Proofs.Sandbox.Paths
import RemoteTail.Proofs.CommandLine.Arrangements
