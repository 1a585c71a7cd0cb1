import RadioLink.Json
import RadioLink.Bytes
import RadioLink.Text.Blank
import RadioLink.Text.Quoted
import RadioLink.Text.Lossy
import RadioLink.Text.Similarity
import RadioLink.Frame.Checksum
import RadioLink.Frame.Stuffing
import RadioLink.Frame.Error
import RadioLink.Frame.Kind
import RadioLink.Frame.Codec
import RadioLink.Frame.Reader
import RadioLink.Frame.Writer
import RadioLink.Frame.Incremental
import RadioLink.AtCommand
import RadioLink.Address
import RadioLink.Status
import RadioLink.FrameId
import RadioLink.SharedAllocator
import RadioLink.Hardware
import RadioLink.Duration
import RadioLink.Registry
import RadioLink.Request
import RadioLink.Response.Error
import RadioLink.Response.Fields
import RadioLink.Response.Command
import RadioLink.Response.Frame
import RadioLink.Response.Json
import RadioLink.Response.Debug
import RadioLink.Link.Backlog
import RadioLink.Link.Config
import RadioLink.Link.Pending
import RadioLink.Link.Radio
import RadioLink.Link.Peer
import RadioLink.Link.Session
import RadioLink.Link.SyncSend
import RadioLink.Link.Outbound
import RadioLink.Args.Grammar
import RadioLink.Args.Diagnostic
import RadioLink.Args.Value
import RadioLink.Args.Usage
import RadioLink.Args.Help
import RadioLink.Args.Parse
import RadioLink.Args.Program
import RadioLink.Cli.Exit
import RadioLink.Cli.Summary
import RadioLink.Cli.Value
import RadioLink.Cli.CommandLine
import RadioLink.Cli.Table
import RadioLink.Cli.Output
import RadioLink.Cli.Host
import RadioLink.Cli.Rig
import RadioLink.Cli.Process
import RadioLink.Cli.Execute
import RadioLink.Demo.NodeDiscover
import RadioLink.Demo.FakeRadio
import RadioLink.Main
import RadioLink.Proofs.Frame.Wire
import RadioLink.Proofs.Frame.Decode
import RadioLink.Proofs.Frame.Stream
import RadioLink.Proofs.Frame.Reader
import RadioLink.Proofs.Frame.Recovery
import RadioLink.Proofs.Frame.Checksum
import RadioLink.Proofs.Frame.Incremental
import RadioLink.Proofs.Frame.Progress
import RadioLink.Proofs.Frame.EndOfStream
import RadioLink.Proofs.Frame.Writer
import RadioLink.Proofs.Link.Pending
import RadioLink.Proofs.Link.Refusal
import RadioLink.Proofs.Link.Correlation
import RadioLink.Proofs.Response.Echo
import RadioLink.Proofs.Link.Pipeline
import RadioLink.Proofs.Link.Backlog
import RadioLink.Proofs.Link.Delivery
import RadioLink.Proofs.Link.Shutdown
import RadioLink.Proofs.Link.Outbound
import RadioLink.Proofs.Allocation
import RadioLink.Proofs.Bytes
import RadioLink.Proofs.Request
import RadioLink.Proofs.Response.Layout
import RadioLink.Proofs.Response.IoSample
import RadioLink.Proofs.Response.AtResponse
import RadioLink.Proofs.Response.Node
import RadioLink.Proofs.Cli.Run
import RadioLink.Proofs.Cli.Device
import RadioLink.Proofs.Cli.Exchange
import RadioLink.Proofs.HexText
import RadioLink.Proofs.Frame.Stuffing
import RadioLink.Proofs.Link.Collect
import RadioLink.Proofs.Cli.Listen
import RadioLink.Proofs.Cli.Collection
import RadioLink.Proofs.Cli.Discover
