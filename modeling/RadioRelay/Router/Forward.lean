import RadioRelay.Router.State

/-!
# Forwarding frames from the kernel
-/

namespace RadioRelay.Router

def ignoreDatagram (router : Router) : Router :=
  { router with
    statistics.ignoredNotifications := router.statistics.ignoredNotifications + 1 }

/-- Routes a frame, counts its deliveries, and retires the clients that failed. -/
def forward (router : Router) (notification : Notification) : Program Router := do
  let (report, registry) ← route Connection.send notification router.registry
  let statistics := router.statistics
  let router := { router with
    registry := registry
    statistics := { statistics with
      notifications := statistics.notifications + 1
      deliveries := statistics.deliveries + report.delivered
      failedDeliveries := statistics.failedDeliveries + report.dropped.length } }
  router.retireAll .deliveryFailed report.dropped

/-- Receives one datagram from the kernel and forwards it. What does not fit
the buffer, or is not a frame of the radio, is ignored. -/
def handleKernel (router : Router) : Program Router := do
  match ← Program.call (.receive router.kernel router.kernelBuffer.capacity) with
  | .error errno =>
    if errno.isTransient then return router
    Program.call (.log (if errno = .noBuffers then .datagramsLost else .kernelUnreadable errno))
    return router
  | .ok received =>
    let router := { router with kernelBuffer := router.kernelBuffer.store received.stored }
    match router.kernelBuffer.slice? received.size with
    | none =>
      Program.call (.log (.oversizedDatagram received.size router.kernelBuffer.capacity))
      return router.ignoreDatagram
    | some datagram =>
      match Notification.decode? datagram router.family with
      | none => return router.ignoreDatagram
      | some notification => router.forward notification

end RadioRelay.Router
