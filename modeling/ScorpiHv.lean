import ScorpiHv.Sco.Flat
import ScorpiHv.Virtio.Hostile
import ScorpiHv.Virtio.TxThread
import ScorpiHv.BlockIfLive
import ScorpiHv.Vhost.Framing
import ScorpiHv.Vhost.Events
import ScorpiHv.Vhost.LiveRing
import ScorpiHv.Ahci.Stop
import ScorpiHv.Usb.BulkIn
import ScorpiHv.Usb.Wheel
import ScorpiHv.Usb.Requests
import ScorpiHv.Vhost.Usable
import ScorpiHv.Xhci.Unread
import ScorpiHv.Xhci.Returns
import ScorpiHv.Hyperv.Fires
import ScorpiHv.Hyperv.Confined
import ScorpiHv.Mmio.Truthful
import ScorpiHv.GuestMemory
import ScorpiHv.Config.NoLoss
import ScorpiHv.Config.Expand
import ScorpiHv.X86.Requests
import ScorpiHv.Sco.Seal
import ScorpiHv.Cnc
import ScorpiHv.Bootrom
import ScorpiHv.Tpm.Runs
import ScorpiHv.Sco.Leak
import ScorpiHv.E82545.Interrupt
import ScorpiHv.Sco.Bursts
import ScorpiHv.Qcow2
import ScorpiHv.Sco.Hosts
